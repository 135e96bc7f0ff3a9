import TenantGateway.Simulation.Gateway
import TenantGateway.Proofs.Net.Headers
import TenantGateway.Proofs.Text.Numeral

/-! Calls to backends: how they fail, and the name of the request that a backend reads. Transport
trims values and sets lengths, but leaves that name as it is. -/
namespace TenantGateway.Simulation
open Net (Request Response)
open Pipeline (Arrival Direction)

private def isPlain (c : Char) : Bool := c.isDigit || c == '-'

private theorem isPlain_requestName (n : Nat) : (requestName n).toList.all isPlain := by
  have hstem : "00000000-0000-4000-8000-".toList.all isPlain = true := by decide
  have hpadded : (Text.padded 12 n).toList = Text.paddedDigits 12 n := String.toList_ofList
  have hnumber : (Text.paddedDigits 12 n).all isPlain = true := by
    rw [List.all_eq_true]
    intro c hc
    rw [isPlain, Text.isDigit_of_mem_paddedDigits hc, Bool.true_or]
  have hname : (requestName n).toList =
      "00000000-0000-4000-8000-".toList ++ (Text.padded 12 n).toList := String.toList_append
  rw [hname, List.all_append, hstem, hpadded, hnumber, Bool.and_self]

private theorem range_of_isPlain {c : Char} (h : isPlain c) : 0x2D ≤ c.toNat ∧ c.toNat ≤ 0x39 := by
  simp only [isPlain, Bool.or_eq_true, beq_iff_eq] at h
  rcases h with h | rfl
  · simp only [Char.isDigit, Bool.and_eq_true, decide_eq_true_eq] at h
    have hlow := UInt32.le_iff_toNat_le.mp h.1
    have hhigh := UInt32.le_iff_toNat_le.mp h.2
    change 48 ≤ c.toNat at hlow
    change c.toNat ≤ 57 at hhigh
    omega
  · decide

/-- A request's name can be the value of a header field. -/
theorem isValue_requestName (n : Nat) : Headers.isValue (requestName n) := by
  rw [Headers.isValue, List.all_eq_true]
  intro c hc
  have hrange := range_of_isPlain (List.all_eq_true.mp (isPlain_requestName n) c hc)
  simp only [Bool.or_eq_true, Bool.and_eq_true, decide_eq_true_eq, bne_iff_ne]
  omega

private theorem dropWhile_pad {cs : List Char} (h : cs.all isPlain) :
    (cs.dropWhile fun c => c == ' ' || c == '\t') = cs := by
  cases cs with
  | nil => rfl
  | cons c cs =>
    have hrange := range_of_isPlain (List.all_eq_true.mp h c List.mem_cons_self)
    have hpad : (c == ' ' || c == '\t') = false := by
      rw [Bool.or_eq_false_iff, beq_eq_false_iff_ne, beq_eq_false_iff_ne]
      constructor
      · rintro rfl
        exact absurd hrange.1 (by decide)
      · rintro rfl
        exact absurd hrange.1 (by decide)
    rw [List.dropWhile_cons, hpad]
    rfl

/-- Transport changes nothing in a request's name. -/
theorem trimValue_requestName (n : Nat) : Wire.trimValue (requestName n) = requestName n := by
  have hplain := isPlain_requestName n
  have hreverse : (requestName n).toList.reverse.all isPlain := by rwa [List.all_reverse]
  rw [Wire.trimValue, dropWhile_pad hplain, dropWhile_pad hreverse, List.reverse_reverse,
    String.ofList_toList]

namespace Wire

private theorem getAll_withLength (h : Headers) (body : String) {name : String}
    (hlength : "content-length" ≠ name) : (withLength h body).getAll name = h.getAll name := by
  rw [withLength]
  split
  · rfl
  · rw [Headers.getAll_append, Headers.getAll_singleton_of_ne _ hlength, List.append_nil]

private theorem getAll_deliverRequest {r : Request} {name value : String}
    (hlength : "content-length" ≠ name) (hvalue : trimValue value = value)
    (h : r.headers.getAll name = [value]) :
    (deliverRequest r).headers.getAll name = [value] := by
  have hvalues : (r.headers.getAll name).map trimValue = [value] := by
    rw [h, List.map_singleton, hvalue]
  have hsized : ∀ headers : Headers, headers.getAll name = [value] →
      Headers.getAll (if r.body.isEmpty then headers else withLength headers r.body) name =
        [value] := by
    intro headers hheaders
    split
    · exact hheaders
    · rw [getAll_withLength _ _ hlength]
      exact hheaders
  simp only [deliverRequest]
  cases r.version with
  | http2 => exact hsized _ h
  | _ => exact hsized _ ((Headers.getAll_map_values _ _ _).trans hvalues)

/-- On its way to the client a response changes its length and the fate of the connection alone. -/
theorem getAll_deliverResponse (request : Request) (closing : Bool) (r : Response) {name : String}
    (hlength : "content-length" ≠ name) (hconnection : "connection" ≠ name) :
    (deliverResponse request closing r).headers.getAll name = r.headers.getAll name := by
  have hsized : Headers.getAll (if isBodiless r.status then r.headers
      else withLength r.headers r.body) name = r.headers.getAll name := by
    split
    · rfl
    · exact getAll_withLength _ _ hlength
  simp only [deliverResponse]
  split
  · split
    · exact hsized
    · rw [Headers.getAll_set_of_ne _ _ hconnection]
      exact hsized
  · split
    · rw [Headers.getAll_set_of_ne _ _ hconnection]
      exact hsized
    · exact hsized
  · exact hsized

end Wire

namespace Call

/-- A call fails before a backend sees it, or a backend sees the request that was sent. -/
theorem send_cases (backends : List Backend) (r : Request) (deadline : Duration) :
    (∃ e, send backends r deadline = failing e none) ∨
      ∃ index b, (send backends r deadline).sighting = some (sightingAt index b r) ∧
        ∀ e, (send backends r deadline).result = .error e → e.isBackendFailure := by
  unfold send
  split
  · exact .inl ⟨_, rfl⟩
  split
  · exact .inl ⟨_, rfl⟩
  split
  · exact .inl ⟨_, rfl⟩
  next index b _ =>
    simp only
    split
    · exact .inl ⟨_, rfl⟩
    split
    · exact .inl ⟨_, rfl⟩
    right
    refine ⟨index, b, ?_⟩
    split
    · split
      · exact ⟨rfl, fun e he => by cases he; rfl⟩
      · exact ⟨rfl, fun e he => by cases he⟩
    all_goals exact ⟨rfl, fun e he => by cases he; rfl⟩

/-- A call without a response is a failure of a backend. -/
theorem isBackendFailure_send {backends : List Backend} {r : Request} {deadline : Duration}
    {e : Refusal} (h : (send backends r deadline).result = .error e) : e.isBackendFailure := by
  rcases send_cases backends r deadline with ⟨failure, hsend⟩ | ⟨index, b, -, hresult⟩
  · rw [hsend] at h
    cases h
    rfl
  · exact hresult e h

/-- The backend sees the request's own name, and no other under its header. -/
theorem requestId_send {backends : List Backend} {deadline : Duration} {d : Direction}
    {a : Arrival} {n : Nat} (ha : a.id = requestName n) {seen : Sighting}
    (h : (send backends (d.outgoing a) deadline).sighting = some seen) :
    seen.headers.getAll "x-request-id" = [a.id] := by
  have hvalid : Headers.isValue a.id := ha ▸ isValue_requestName n
  have htrim : Wire.trimValue a.id = a.id := ha ▸ trimValue_requestName n
  rcases send_cases backends (d.outgoing a) deadline with ⟨e, hsend⟩ | ⟨index, b, hseen, -⟩
  · rw [hsend] at h
    cases h
  · rw [hseen] at h
    cases h
    refine Wire.getAll_deliverRequest (by decide) htrim ?_
    simp only [Direction.outgoing]
    rw [Headers.getAll_append, Headers.getAll_remove_of_ne _ (by decide),
      Forwarding.getAll_addForwarded _ _ (by decide) (by decide) (by decide),
      Forwarding.getAll_requestId _ _ _ hvalid, Headers.getAll_singleton_of_ne _ (by decide)]
    rfl

end Call

end TenantGateway.Simulation
