import TenantGateway.Settings.Environment
import TenantGateway.Proofs.Text.Blank
import TenantGateway.Proofs.Text.Split

/-! A list of services in one text is read back as it was meant, with white space and empty items
wherever they may stand. What cannot be read is an item without an equality sign. -/
namespace TenantGateway.Variable
open Text

/-- White space of any length, as it is put into a list of services. -/
structure Gap where
  chars : List Char
  blank : Blank chars

/-- A name and an address that can be written side by side. -/
structure Listing where
  name : String
  address : String
  named : name ≠ ""
  trimmed_name : Trimmed name.toList
  trimmed_address : Trimmed address.toList
  comma_not_mem_name : ',' ∉ name.toList
  equals_not_mem_name : '=' ∉ name.toList
  comma_not_mem_address : ',' ∉ address.toList

def Listing.service (l : Listing) : Service :=
  { name := l.name, url := l.address, stripSegment := true }

/-- What stands between two commas: a pair, or nothing but white space. -/
inductive Item where
  | empty (gap : Gap)
  | pair (l : Listing) (before afterName beforeAddress after : Gap)

namespace Item

def chars : Item → List Char
  | .empty gap => gap.chars
  | .pair l before afterName beforeAddress after =>
    (before.chars ++ l.name.toList ++ afterName.chars) ++
      '=' :: (beforeAddress.chars ++ l.address.toList ++ after.chars)

def listing? : Item → Option Listing
  | .empty _ => none
  | .pair l .. => some l

end Item

/-- Items separated by commas. -/
def listText (items : List Item) : String :=
  String.ofList ([','].intercalate (items.map Item.chars))

/-- An item that can be read, or that does not count. -/
def Harmless (piece : List Char) : Prop := Blank piece ∨ '=' ∈ piece

/-- How an item is refused. -/
def refusal (piece : List Char) : String :=
  "expected name=url, got '" ++ String.ofList (trimChars piece) ++ "'"

section

variable {piece name address : List Char} {pieces : List (List Char)}

private theorem readService_trimChars (h : '=' ∉ name) :
    readService (trimChars (name ++ '=' :: address)) =
      .ok ⟨String.ofList (trimChars name), String.ofList (trimChars address), true⟩ := by
  -- A pair is trimmed twice, as a whole and in its parts, but its parts alone would do.
  obtain ⟨before, after, hbefore, hafter, hpiece⟩ := pads_trimChars (name ++ '=' :: address)
  have hmem : '=' ∈ trimChars (name ++ '=' :: address) := by
    have hwhole : '=' ∈ name ++ '=' :: address := List.mem_append_right _ List.mem_cons_self
    rw [hpiece, List.mem_append, List.mem_append] at hwhole
    rcases hwhole with (hwhole | hwhole) | hwhole
    · exact absurd hwhole (hbefore.not_mem (by decide))
    · exact hwhole
    · exact absurd hwhole (hafter.not_mem (by decide))
  generalize trimChars (name ++ '=' :: address) = trimmed at hpiece hmem ⊢
  obtain ⟨head, rest, rfl, hhead⟩ := exists_joinAt_of_mem hmem
  -- both cuts of the untrimmed pair are at its first equality sign
  have hcut : joinAt '=' name (some address) = joinAt '=' (before ++ head) (some (rest ++ after)) := by
    simpa [joinAt] using hpiece
  have hbound : '=' ∉ before ++ head := by
    rw [List.mem_append, not_or]
    exact ⟨hbefore.not_mem (by decide), hhead⟩
  obtain ⟨rfl, haddress⟩ := (joinAt_inj h hbound).mp hcut
  obtain rfl := Option.some.inj haddress
  have hname : trimChars (before ++ head) = trimChars head := by
    have hsurround := trimChars_surround hbefore Blank.nil head
    rwa [List.append_nil] at hsurround
  have hrest : trimChars (rest ++ after) = trimChars rest :=
    trimChars_surround Blank.nil hafter rest
  rw [readService, splitAtFirst_joinAt hhead, hname, hrest]

private theorem readService_trimChars_of_not_mem (h : '=' ∉ piece) :
    readService (trimChars piece) = .error (refusal piece) := by
  have htrim : '=' ∉ trimChars piece := by
    obtain ⟨before, after, -, -, hpiece⟩ := pads_trimChars piece
    intro hmem
    rw [hpiece] at h
    exact h (List.mem_append_left _ (List.mem_append_right _ hmem))
  have hcut := splitAtFirst_joinAt htrim none
  rw [joinAt, Option.elim_none, List.append_nil] at hcut
  rw [readService, hcut]
  rfl

-- Reads the items of a list one after the other.
private def readPieces (pieces : List (List Char)) : Except String (List Service) :=
  ((pieces.map trimChars).filter (!·.isEmpty)).mapM readService

private theorem readPieces_cons_of_blank (h : Blank piece) :
    readPieces (piece :: pieces) = readPieces pieces := by
  rw [readPieces, List.map_cons, trimChars_of_blank h]
  rfl

private theorem readPieces_cons (h : ¬ Blank piece) :
    readPieces (piece :: pieces) =
      (readService (trimChars piece)).bind fun s => (readPieces pieces).map (s :: ·) := by
  have hne : (!(trimChars piece).isEmpty) = true := by
    rw [Bool.not_eq_true', List.isEmpty_eq_false_iff]
    exact mt trimChars_eq_nil_iff.mp h
  rw [readPieces, List.map_cons, List.filter_cons, if_pos hne, List.mapM_cons]
  rfl

private theorem readPieces_cons_of_mem (h : '=' ∈ piece) (pieces : List (List Char)) :
    ∃ s, readPieces (piece :: pieces) = (readPieces pieces).map (s :: ·) := by
  have hvisible : ¬ Blank piece := fun hblank => hblank.not_mem (by decide) h
  obtain ⟨name, address, rfl, hname⟩ := exists_joinAt_of_mem h
  refine ⟨⟨String.ofList (trimChars name), String.ofList (trimChars address), true⟩, ?_⟩
  rw [readPieces_cons hvisible, joinAt, Option.elim_some, readService_trimChars hname]
  rfl

private theorem readPieces_cons_of_harmful (h : ¬ Harmless piece) :
    readPieces (piece :: pieces) = .error (refusal piece) := by
  rw [Harmless, not_or] at h
  rw [readPieces_cons h.1, readService_trimChars_of_not_mem h.2]
  rfl

private theorem readPieces_cons_of_harmless (h : Harmless piece) (reason : String) :
    readPieces (piece :: pieces) = .error reason ↔ readPieces pieces = .error reason := by
  rcases h with hblank | hmem
  · rw [readPieces_cons_of_blank hblank]
  · obtain ⟨s, hs⟩ := readPieces_cons_of_mem hmem pieces
    rw [hs]
    cases readPieces pieces <;> simp [Except.map]

private theorem exists_readPieces_eq_error_iff (pieces : List (List Char)) :
    (∃ reason, readPieces pieces = .error reason) ↔ ∃ piece ∈ pieces, ¬ Harmless piece := by
  induction pieces with
  | nil => simp [readPieces, pure, Except.pure]
  | cons head pieces ih =>
    simp only [List.mem_cons, exists_eq_or_imp]
    by_cases hhead : Harmless head
    · simp only [readPieces_cons_of_harmless hhead, ih, hhead, not_true_eq_false, false_or]
    · simp only [readPieces_cons_of_harmful hhead, hhead, not_false_eq_true, true_or, iff_true]
      exact ⟨_, rfl⟩

private theorem exists_first_of_readPieces {reason : String}
    (h : readPieces pieces = .error reason) : ∃ before piece after,
      pieces = before ++ piece :: after ∧ (∀ p ∈ before, Harmless p) ∧ ¬ Harmless piece ∧
        reason = refusal piece := by
  induction pieces with
  | nil => nomatch h
  | cons head pieces ih =>
    by_cases hhead : Harmless head
    · rw [readPieces_cons_of_harmless hhead] at h
      obtain ⟨before, piece, after, rfl, hbefore, hrest⟩ := ih h
      exact ⟨head :: before, piece, after, rfl, List.forall_mem_cons.mpr ⟨hhead, hbefore⟩, hrest⟩
    · rw [readPieces_cons_of_harmful hhead] at h
      have hnone : ∀ p ∈ [], Harmless p := fun _ hp => nomatch hp
      exact ⟨[], head, pieces, rfl, hnone, hhead, (Except.error.inj h).symm⟩

private theorem trimChars_name (l : Listing) (before after : Gap) :
    String.ofList (trimChars (before.chars ++ l.name.toList ++ after.chars)) = l.name := by
  rw [trimChars_of_pads ⟨_, _, before.blank, after.blank, rfl⟩ l.trimmed_name, String.ofList_toList]

private theorem trimChars_address (l : Listing) (before after : Gap) :
    String.ofList (trimChars (before.chars ++ l.address.toList ++ after.chars)) = l.address := by
  rw [trimChars_of_pads ⟨_, _, before.blank, after.blank, rfl⟩ l.trimmed_address,
    String.ofList_toList]

private theorem not_mem_surround {c : Char} {cs : List Char} (hc : isBlank c = false) (h : c ∉ cs)
    (before after : Gap) : c ∉ before.chars ++ cs ++ after.chars := by
  rw [List.mem_append, List.mem_append, not_or, not_or]
  exact ⟨⟨before.blank.not_mem hc, h⟩, after.blank.not_mem hc⟩

private theorem Item.comma_not_mem_chars (item : Item) : ',' ∉ item.chars := by
  cases item with
  | empty gap => exact gap.blank.not_mem (by decide)
  | pair l before afterName beforeAddress after =>
    rw [chars, List.mem_append, List.mem_cons, not_or, not_or]
    exact ⟨not_mem_surround (by decide) l.comma_not_mem_name before afterName, by decide,
      not_mem_surround (by decide) l.comma_not_mem_address beforeAddress after⟩

private theorem readPieces_items (items : List Item) :
    readPieces (items.map Item.chars) =
      .ok ((items.filterMap Item.listing?).map Listing.service) := by
  induction items with
  | nil => rfl
  | cons item items ih =>
    cases item with
    | empty gap => rw [List.map_cons, Item.chars, readPieces_cons_of_blank gap.blank, ih]; rfl
    | pair l before afterName beforeAddress after =>
      have hname : '=' ∉ before.chars ++ l.name.toList ++ afterName.chars :=
        not_mem_surround (by decide) l.equals_not_mem_name before afterName
      have hvisible : ¬ Blank (Item.pair l before afterName beforeAddress after).chars := by
        intro hblank
        exact hblank.not_mem (c := '=') (by decide) (List.mem_append_right _ List.mem_cons_self)
      rw [List.map_cons, readPieces_cons hvisible, Item.chars, readService_trimChars hname,
        trimChars_name, trimChars_address, ih]
      rfl

private theorem readServices_eq (raw : String) :
    readServices raw = readPieces (splitAtEach ',' raw.toList) := rfl

private theorem readServices_listText (items : List Item) :
    readServices (listText items) =
      .ok ((items.filterMap Item.listing?).map Listing.service) := by
  rw [readServices_eq, listText, String.toList_ofList]
  by_cases hitems : items = []
  · subst hitems
    rfl
  · rw [splitAtEach_intercalate (by simpa using hitems), readPieces_items]
    intro piece hpiece
    obtain ⟨item, -, rfl⟩ := List.mem_map.mp hpiece
    exact item.comma_not_mem_chars

end

/-- Reading a list of services undoes writing it, and refuses just what has not been written so. -/
structure ReadsAsWritten : Prop where
  written : ∀ items, readServices (listText items) =
    .ok ((items.filterMap Item.listing?).map Listing.service)
  refused : ∀ raw, (∃ reason, readServices raw = .error reason) ↔
    ∃ piece, IsPiece ',' piece raw.toList ∧ ¬ Blank piece ∧ '=' ∉ piece
  /-- The first item that cannot be read is the one that is named. -/
  blamed : ∀ raw reason, readServices raw = .error reason → ∃ before piece after,
    splitAtEach ',' raw.toList = before ++ piece :: after ∧ (∀ p ∈ before, Harmless p) ∧
      ¬ Harmless piece ∧ reason = refusal piece

/-- A written list of services is read as it is meant, and only an item without an equals sign
fails. -/
theorem readServices_asWritten : ReadsAsWritten where
  written := readServices_listText
  refused raw := by
    rw [readServices_eq, exists_readPieces_eq_error_iff]
    simp only [mem_splitAtEach_iff, Harmless, not_or]
  blamed raw reason h := exists_first_of_readPieces (readServices_eq raw ▸ h)

/-- An address may hold equality signs of its own, or be missing. -/
example : readServices " a = http://h:1/?x=1 ,, b=" =
    .ok [⟨"a", "http://h:1/?x=1", true⟩, ⟨"b", "", true⟩] := by
  rfl

end TenantGateway.Variable
