import TenantGateway.Proofs.Calendar.Rfc3339
import TenantGateway.Proofs.Json.Streams
import TenantGateway.Proofs.Usage.Sessions
import Mathlib.Data.List.Perm.Basic

/-! A usage event survives the wire. Each of its members is one scalar of the stream and is read as the
value that was written, so the reader finds the event again whatever the order of the members. A sink in
memory gives back all events of the batches that it has taken. -/
namespace TenantGateway.Usage
open Json (memberStream numeralOf pieceOf)

namespace Event

def value (e : Event) : (f : Field) → f.Value
  | .requestId => e.requestId
  | .organization => e.organization
  | .keyId => e.keyId
  | .endpoint => e.endpoint
  | .method => e.method
  | .status => e.status
  | .responseMillis => e.responseMillis
  | .time => e.time
  | .billable => e.billable

/-- How the value of a member is written. -/
def written (e : Event) : Field → Json
  | .requestId => .text e.requestId
  | .organization => .text e.organization
  | .keyId => .text e.keyId
  | .endpoint => .text e.endpoint
  | .method => .text e.method
  | .status => .integer e.status.toNat
  | .responseMillis => .integer e.responseMillis.toNat
  | .time => .text e.time.rfc3339
  | .billable => .bool e.billable

/-- The written members in some order. -/
def members (e : Event) (fs : List Field) : List (String × Json) :=
  fs.map fun f => (f.name, e.written f)

private theorem toJson_eq (e : Event) : e.toJson = .object (e.members Field.all) := rfl

private theorem readText_pieces (expected s : String) :
    readText expected (.text (s.toList.map pieceOf)) = .ok s := by
  simp only [readText, Json.pieceText?_map_pieceOf]

private theorem readWord_numeral {bound n : Nat} (expected : String) (hn : n ≤ bound)
    (hsize : n < UInt64.size) :
    readWord bound expected (.number (numeralOf n)) = .ok n := by
  have hrange : 0 ≤ (n : Int) ∧ (n : Int) ≤ bound := ⟨Int.natCast_nonneg n, Int.ofNat_le.mpr hn⟩
  simp only [readWord, Json.value?_numeralOf hsize, Decode.unsigned, if_pos hrange,
    Int.toNat_natCast]

/-- A member is one scalar of the stream, and it is read as the value that was written. -/
theorem exists_read_written (e : Event) (f : Field) :
    ∃ item, (e.written f).stream = [item] ∧ f.read item = .ok (e.value f) := by
  cases f with
  | requestId => exact ⟨_, rfl, readText_pieces "a string" _⟩
  | organization => exact ⟨_, rfl, readText_pieces "a string" _⟩
  | keyId => exact ⟨_, rfl, readText_pieces "a string" _⟩
  | endpoint => exact ⟨_, rfl, readText_pieces "a string" _⟩
  | method => exact ⟨_, rfl, readText_pieces "a string" _⟩
  | billable => exact ⟨_, rfl, rfl⟩
  | status =>
    have hread : readWord 65535 "u16" (.number (numeralOf e.status.toNat)) = .ok e.status.toNat :=
      readWord_numeral _ (Nat.le_of_lt_succ e.status.toNat_lt)
        (Nat.lt_trans e.status.toNat_lt (by decide))
    refine ⟨_, rfl, ?_⟩
    rw [Field.read, hread, Except.map, UInt16.ofNat_toNat]
    rfl
  | responseMillis =>
    have hread : readWord (UInt64.size - 1) "u64" (.number (numeralOf e.responseMillis.toNat)) =
        .ok e.responseMillis.toNat :=
      readWord_numeral _ (Nat.le_sub_one_of_lt e.responseMillis.toNat_lt) e.responseMillis.toNat_lt
    refine ⟨_, rfl, ?_⟩
    rw [Field.read, hread, Except.map, UInt64.ofNat_toNat]
    rfl
  | time =>
    refine ⟨_, rfl, ?_⟩
    simp only [Field.read, readText_pieces, bind, Except.bind, Calendar.Timestamp.parse_rfc3339]
    rfl

end Event

private theorem Field.ofName?_name (f : Field) : Field.ofName? f.name = some f := by
  cases f <;> rfl

private theorem Field.mem_all (f : Field) : f ∈ Field.all := by
  cases f <;> decide

namespace Draft

/-- The draft that holds some members of an event. -/
def holding (e : Event) (fs : List Field) : Draft := fun f =>
  if f ∈ fs then some (e.value f) else none

private theorem set_holding (e : Event) (fs : List Field) (f : Field) :
    (holding e fs).set f (e.value f) = holding e (f :: fs) := by
  funext g
  by_cases h : f = g
  · subst h
    simp [set, holding]
  · have hmem : g ∈ f :: fs ↔ g ∈ fs := by
      rw [List.mem_cons]
      exact or_iff_right (Ne.symm h)
    simp only [set, holding, h, hmem, dif_neg, not_false_eq_true]

private theorem event_holding (e : Event) {fs : List Field} (h : ∀ f, f ∈ fs) :
    (holding e fs).event = .ok e := by
  have hget (f : Field) : (holding e fs).get f = .ok (e.value f) := by
    simp only [get, holding, if_pos (h f)]
  simp only [event, hget]
  rfl

end Draft

/-- Members that have not been read yet are read in the order in which they stand. -/
theorem readMembers_members (e : Event) {fs known : List Field} (hnodup : fs.Nodup)
    (hfresh : ∀ f ∈ fs, f ∉ known) (rest : List Json.Event) :
    readMembers (.holding e known) (memberStream (e.members fs) ++ .endObject :: rest) =
      .ok (.holding e (fs.reverse ++ known), rest) := by
  induction fs generalizing known with
  | nil =>
    rw [Event.members, List.map_nil, memberStream, List.nil_append, readMembers]
    rfl
  | cons f fs ih =>
    obtain ⟨hf, hnodup⟩ := List.nodup_cons.mp hnodup
    obtain ⟨item, hstream, hread⟩ := e.exists_read_written f
    have hrest : ∀ g ∈ fs, g ∉ f :: known := by
      intro g hg hmem
      rcases List.mem_cons.mp hmem with rfl | hknown
      · exact hf hg
      · exact hfresh g (List.mem_cons_of_mem _ hg) hknown
    have hnew : Draft.holding e known f = none := if_neg (hfresh f List.mem_cons_self)
    have hnext := ih hnodup hrest
    rw [← Draft.set_holding] at hnext
    rw [List.reverse_cons, List.append_assoc, List.singleton_append, ← hnext, Event.members,
      List.map_cons, memberStream, hstream]
    simp only [List.cons_append, List.nil_append, readMembers, Json.pieceText?_map_pieceOf,
      Field.ofName?_name, hnew, hread]
    rfl

/-- A written event is read back, in whatever order its members stand. -/
theorem parse_members (e : Event) {fs : List Field} (h : fs.Perm Field.all) :
    Event.parse (Json.object (e.members fs)).render = .ok e := by
  have hall : ∀ f, f ∈ fs.reverse ++ [] := by
    intro f
    rw [List.append_nil, List.mem_reverse, h.mem_iff]
    exact f.mem_all
  have hread : readMembers .empty (memberStream (e.members fs) ++ [.endObject]) =
      .ok (.holding e (fs.reverse ++ []), []) :=
    readMembers_members e (h.nodup_iff.mpr (by decide)) (fun _ _ => List.not_mem_nil) []
  simp only [Event.parse, Json.events_render, Json.stream, List.cons_append, hread]
  simp only [bind, Except.bind, Draft.event_holding e hall]
  rfl

private theorem Event.parse_render (e : Event) : Event.parse e.toJson.render = .ok e := by
  rw [toJson_eq]
  exact parse_members e (.refl _)

/-- What a consumer of the wire gets of an event. -/
structure Event.Survives (e : Event) : Prop where
  decoded : Event.parse (SinkRecord.ofEvent e).payload = .ok e
  key : (SinkRecord.ofEvent e).key = e.organization
  reencoded : ∀ d, Event.parse (SinkRecord.ofEvent e).payload = .ok d →
    SinkRecord.ofEvent d = SinkRecord.ofEvent e

private theorem Event.survives (e : Event) : e.Survives where
  decoded := e.parse_render
  key := rfl
  reencoded := by
    intro d hd
    rw [SinkRecord.ofEvent, e.parse_render] at hd
    rw [Except.ok.inj hd]

/-- Different events have different payloads. -/
theorem SinkRecord.payload_injective {d e : Event} (h : (ofEvent d).payload = (ofEvent e).payload) :
    d = e := by
  have hparse := e.survives.decoded
  rw [← h, d.survives.decoded] at hparse
  exact Except.ok.inj hparse

namespace MemorySink

private theorem filterMap_records (batch : List Event) :
    (batch.map SinkRecord.ofEvent).filterMap (fun r => (Event.parse r.payload).toOption) = batch := by
  induction batch with
  | nil => rfl
  | cons e batch ih =>
    rw [List.map_cons, List.filterMap_cons, e.survives.decoded, ih]
    rfl

/-- A sink that holds the records of some batches gives back their events in order. -/
theorem events_of_batches {s : MemorySink} {batches : List (List Event)}
    (h : s.batches = batches.map (·.map SinkRecord.ofEvent)) : s.events = batches.flatten := by
  rw [events, h, ← List.map_flatten, filterMap_records]

/-- What can be asked of a sink in memory. -/
inductive Request where
  | publish (batch : List Event)
  | failNext (count : Nat)
  | flush

/-- The batches that are to be taken where the next `failures` publications are to fail. -/
def Request.taken (failures : Nat) : List Request → List (List Event)
  | [] => []
  | .publish batch :: requests =>
    if 0 < failures then taken (failures - 1) requests else batch :: taken failures requests
  | .failNext count :: requests => taken count requests
  | .flush :: requests => taken failures requests

/-- A sink and the batches whose publication has succeeded, in order. -/
structure Ledger where
  sink : MemorySink
  published : List (List Event)

namespace Ledger

def serve (l : Ledger) : Request → Ledger
  | .publish batch =>
    let (taken, sink) := l.sink.publish (batch.map SinkRecord.ofEvent)
    { sink, published := if taken then l.published ++ [batch] else l.published }
  | .failNext count => { l with sink := { l.sink with failuresLeft := count } }
  | .flush => { l with sink := l.sink.flush }

def run (requests : List Request) : Ledger := requests.foldl serve ⟨.empty, []⟩

private theorem batches_serve {l : Ledger}
    (h : l.sink.batches = l.published.map (·.map SinkRecord.ofEvent)) (r : Request) :
    (l.serve r).sink.batches = (l.serve r).published.map (·.map SinkRecord.ofEvent) := by
  cases r with
  | publish batch =>
    by_cases hfailing : 0 < l.sink.failuresLeft
    · simpa only [serve, publish, if_pos hfailing, Bool.false_eq_true, if_false] using h
    · simp only [serve, publish, if_neg hfailing, if_true, h, List.map_append, List.map_singleton]
  | failNext count => exact h
  | flush => exact h

/-- Only the failures that were asked for keep a publication from succeeding. -/
theorem published_foldl (l : Ledger) (requests : List Request) :
    (requests.foldl serve l).published =
      l.published ++ Request.taken l.sink.failuresLeft requests := by
  induction requests generalizing l with
  | nil => exact (List.append_nil _).symm
  | cons r requests ih =>
    rw [List.foldl_cons, ih]
    cases r with
    | publish batch =>
      by_cases hfailing : 0 < l.sink.failuresLeft
      · simp only [serve, publish, Request.taken, if_pos hfailing, Bool.false_eq_true, if_false]
      · simp only [serve, publish, Request.taken, if_neg hfailing, if_true, List.append_assoc,
          List.singleton_append]
    | failNext count => rfl
    | flush => rfl

/-- The records in a sink are those of the published batches. -/
theorem batches_run (requests : List Request) :
    (run requests).sink.batches = (run requests).published.map (·.map SinkRecord.ofEvent) := by
  induction requests using List.reverseRecOn with
  | nil => rfl
  | append_singleton requests r ih =>
    rw [run, List.foldl_append]
    exact batches_serve ih r

end Ledger

end MemorySink

/-- Every event survives the wire, and a sink in memory gives back the published ones in order: all that
it was asked to publish, but for the failures that it was asked for. -/
theorem survives_and_returned :
    (∀ e : Event, e.Survives) ∧
      ∀ requests, (MemorySink.Ledger.run requests).sink.events =
          (MemorySink.Ledger.run requests).published.flatten ∧
        (MemorySink.Ledger.run requests).published = MemorySink.Request.taken 0 requests := by
  refine ⟨Event.survives, fun requests => ⟨?_, ?_⟩⟩
  · exact MemorySink.events_of_batches (MemorySink.Ledger.batches_run requests)
  · exact MemorySink.Ledger.published_foldl _ requests

end TenantGateway.Usage

namespace TenantGateway.Simulation.EmitterSession
open Usage

/-- Whatever has been done with a session, its sink gives back what the books have as published. -/
theorem events_of_deeds (settings : EmitterSettings) (hruns : settings.Runnable)
    (keeps : Bool) (deeds : List Deed) :
    ∃ b : Books, (deeds.foldl perform (ofSettings settings keeps)).Follows b ∧ b.Balanced settings ∧
      ((deeds.foldl perform (ofSettings settings keeps)).sink.keeps →
        (deeds.foldl perform (ofSettings settings keeps)).sink.memory.events =
          (b.settled.filterMap Settlement.published?).flatten) := by
  obtain ⟨b, hfollows, hbalanced⟩ := balanced_of_deeds settings hruns keeps deeds
  refine ⟨b, hfollows, hbalanced, fun hkeeps => ?_⟩
  exact MemorySink.events_of_batches ((hfollows.sink hkeeps).trans hbalanced.delivered)

end TenantGateway.Simulation.EmitterSession
