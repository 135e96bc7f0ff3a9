import TenantGateway.Json.Number
import TenantGateway.Json.Printer
import TenantGateway.Proofs.Text.Numeral
import Mathlib.Tactic.SplitIfs

/-! What a written value is read as. Each value has a stream of events, and the scanner gives just that
for its compact text. The reading of a text is cut into stretches, each of which yields some events and
leaves the rest of the text to be read as if nothing had gone before, so that the stretches of a value
are those of its parts and of the marks between them. -/
namespace TenantGateway.Json
open Text

section Texts

/-- What an escaped character is read as. -/
def pieceOf (c : Char) : Piece :=
  if c.toNat < 32 ∧ c.toNat ∉ [8, 9, 10, 12, 13] then .unit c.toNat else .char c

variable {c x : Char} {rest : List Char}

-- One piece more in front of those of a text that has been scanned.
private def prepend (p : Piece) (r : Option (List Piece × List Char)) :
    Option (List Piece × List Char) := r.map fun (pieces, rest) => (p :: pieces, rest)

private theorem scanText?_short (hx : x ≠ 'u') (h : simpleEscape? x = some c) :
    scanText? ('\\' :: x :: rest) = prepend (.char c) (scanText? rest) := by
  rw [scanText?]
  · rw [h]
    cases scanText? rest <;> rfl
  · rintro _ _ _ _ _ rfl
    exact absurd rfl hx

private theorem scanText?_unit {a b c d : Char} {n : Nat} (h : hexUnit? a b c d = some n) :
    scanText? ('\\' :: 'u' :: a :: b :: c :: d :: rest) = prepend (.unit n) (scanText? rest) := by
  rw [scanText?, h]
  cases scanText? rest <;> rfl

private theorem scanText?_plain (hquote : c ≠ '"') (hback : c ≠ '\\') (hcontrol : ¬c.toNat < 32) :
    scanText? (c :: rest) = prepend (.char c) (scanText? rest) := by
  rw [scanText?]
  · simp only [hcontrol, hback, or_self, if_false]
    cases scanText? rest <;> rfl
  · exact hquote
  · exact fun _ _ _ _ _ h => absurd h hback
  · exact fun _ _ h => absurd h hback

private theorem scanText?_escapeChar (c : Char) (rest : List Char) :
    scanText? (escapeChar c ++ rest) = prepend (pieceOf c) (scanText? rest) := by
  have hof : ∀ {n}, c.toNat = n → c = Char.ofNat n := by
    rintro n rfl
    exact (Char.ofNat_toNat c).symm
  have hunit : ∀ n < 32, hexUnit? '0' '0' (Nat.digitChar ((UInt8.ofNat n).toNat / 16))
      (Nat.digitChar ((UInt8.ofNat n).toNat % 16)) = some n := by decide
  unfold escapeChar
  split_ifs with hquote hback h8 h9 h10 h12 h13 hcontrol
  · subst hquote
    exact scanText?_short (by decide) rfl
  · subst hback
    exact scanText?_short (by decide) rfl
  · cases hof h8
    exact scanText?_short (by decide) rfl
  · cases hof h9
    exact scanText?_short (by decide) rfl
  · cases hof h10
    exact scanText?_short (by decide) rfl
  · cases hof h12
    exact scanText?_short (by decide) rfl
  · cases hof h13
    exact scanText?_short (by decide) rfl
  · have hpiece : pieceOf c = .unit c.toNat := by
      refine if_pos ⟨hcontrol, ?_⟩
      simp only [List.mem_cons, List.not_mem_nil, or_false, not_or]
      exact ⟨h8, h9, h10, h12, h13⟩
    rw [hpiece]
    exact scanText?_unit (hunit _ hcontrol)
  · have hpiece : pieceOf c = .char c := if_neg fun h => hcontrol h.1
    rw [hpiece]
    exact scanText?_plain hquote hback hcontrol

private theorem scanText?_quoted (cs rest : List Char) :
    scanText? (cs.flatMap escapeChar ++ '"' :: rest) = some (cs.map pieceOf, rest) := by
  induction cs with
  | nil => rfl
  | cons c cs ih =>
    rw [List.flatMap_cons, List.append_assoc, scanText?_escapeChar, ih]
    rfl

private theorem pieceChars?_unit {n : Nat} (hn : n < 32) (rest : List Piece) :
    pieceChars? (.unit n :: rest) = (pieceChars? rest).map (Char.ofNat n :: ·) := by
  have hhigh : ¬(0xD800 ≤ n ∧ n ≤ 0xDBFF) := by omega
  have hlow : ¬(0xDC00 ≤ n ∧ n ≤ 0xDFFF) := by omega
  have hneither : ¬(0xD800 ≤ n ∧ n ≤ 0xDFFF) := by omega
  match rest with
  | [] => simp only [pieceChars?, hneither, if_false]
  | .char c :: rest => simp only [pieceChars?, hneither, if_false]
  | .unit low :: rest => rw [pieceChars?, if_neg hhigh, if_neg hlow]

private theorem pieceChars?_map_pieceOf (cs : List Char) :
    pieceChars? (cs.map pieceOf) = some cs := by
  induction cs with
  | nil => rfl
  | cons c cs ih =>
    rw [List.map_cons, pieceOf]
    split
    next hunit => rw [pieceChars?_unit hunit.1, ih, Option.map_some, Char.ofNat_toNat]
    next => rw [pieceChars?, ih, Option.map_some]

/-- The pieces of a text stand for the text. -/
theorem pieceText?_map_pieceOf (s : String) : pieceText? (s.toList.map pieceOf) = some s := by
  rw [pieceText?, pieceChars?_map_pieceOf, Option.map_some, String.ofList_toList]

end Texts

section Numerals

/-- The numeral that an integer is written as. -/
def numeralOf (n : Int) : Numeral :=
  { negative := decide (n < 0), whole := Nat.toDigits 10 n.natAbs, fraction := none, exponent := none }

/-- A text that does not go on with a numeral. -/
def EndsNumeral (rest : List Char) : Prop :=
  ∀ c ∈ rest.head?, c.isDigit = false ∧ c ≠ '.' ∧ c ≠ 'e' ∧ c ≠ 'E'

variable {rest : List Char}

private theorem scanWhole?_toDigits (n : Nat) (hrest : EndsDigits rest) :
    scanWhole? (Nat.toDigits 10 n ++ rest) = some (Nat.toDigits 10 n, rest) := by
  by_cases hn : n = 0
  · subst hn
    rfl
  · have hhead := head?_toDigits_ne hn
    have hdigits : ∀ c ∈ Nat.toDigits 10 n, c.isDigit = true := fun c => isDigit_of_mem_toDigits
    cases hds : Nat.toDigits 10 n with
    | nil => exact absurd hds Nat.toDigits_ne_nil
    | cons c ds =>
      rw [hds] at hhead hdigits
      rw [List.forall_mem_cons] at hdigits
      rw [List.cons_append, scanWhole?]
      · rw [if_pos hdigits.1, takeWhile_digits hdigits.2 hrest, dropWhile_digits hdigits.2 hrest]
      · exact fun hzero => hhead (congrArg some hzero)

private theorem scanFraction?_none (hrest : EndsNumeral rest) :
    scanFraction? rest = some (none, rest) := by
  rw [scanFraction?]
  rintro rest rfl
  exact (hrest '.' rfl).2.1 rfl

private theorem scanExponent?_none (hrest : EndsNumeral rest) :
    scanExponent? rest = some (none, rest) := by
  cases rest with
  | nil => rfl
  | cons c rest =>
    obtain ⟨-, -, hlower, hupper⟩ := hrest c rfl
    rw [scanExponent?.eq_def]
    exact if_neg (not_or.mpr ⟨hlower, hupper⟩)

private theorem scanNumeral?_toString (n : Int) (hrest : EndsNumeral rest) :
    scanNumeral? ((toString n).toList ++ rest) = some (numeralOf n, rest) := by
  have hwhole : ∀ m, scanWhole? (Nat.toDigits 10 m ++ rest) = some (Nat.toDigits 10 m, rest) :=
    fun m => scanWhole?_toDigits m fun c hc => (hrest c hc).1
  rw [toString_int_toList]
  split
  next hn =>
    have hsign : ∀ cs, Nat.toDigits 10 n.toNat ++ rest ≠ '-' :: cs := by
      intro cs hcs
      cases hdigits : Nat.toDigits 10 n.toNat with
      | nil => exact Nat.toDigits_ne_nil hdigits
      | cons c ds =>
        have hc : c.isDigit = true := isDigit_of_mem_toDigits (hdigits ▸ List.mem_cons_self)
        rw [hdigits] at hcs
        rw [(List.cons.inj hcs).1] at hc
        exact absurd hc (by decide)
    have hnumeral : numeralOf n = ⟨false, Nat.toDigits 10 n.toNat, none, none⟩ := by
      obtain ⟨m, rfl⟩ := Int.eq_ofNat_of_zero_le hn
      rw [numeralOf, decide_eq_false (Int.not_lt.mpr hn), Int.natAbs_natCast, Int.toNat_natCast]
    rw [scanNumeral?, hwhole, hnumeral]
    · simp only [Option.bind_eq_bind, Option.bind_some, scanFraction?_none hrest,
        scanExponent?_none hrest]
      rfl
    · exact hsign
  next hn =>
    have hnumeral : numeralOf n = ⟨true, Nat.toDigits 10 n.natAbs, none, none⟩ := by
      rw [numeralOf, decide_eq_true (Int.not_le.mp hn)]
    rw [List.cons_append, scanNumeral?, hwhole, hnumeral]
    simp only [Option.bind_eq_bind, Option.bind_some, scanFraction?_none hrest,
      scanExponent?_none hrest]
    rfl

private theorem appendDigits_eq (cs : List Char) (significand : Nat)
    (h : cs.foldl (fun value c => value * 10 + (c.toNat - 48)) significand < UInt64.size) :
    appendDigits significand cs =
      (cs.foldl (fun value c => value * 10 + (c.toNat - 48)) significand, cs.length) := by
  have hgrows : ∀ (cs : List Char) (value : Nat),
      value ≤ cs.foldl (fun value c => value * 10 + (c.toNat - 48)) value := by
    intro cs
    induction cs with
    | nil => exact fun value => Nat.le_refl _
    | cons c cs ih =>
      intro value
      exact Nat.le_trans (by omega) (ih (value * 10 + (c.toNat - 48)))
  induction cs generalizing significand with
  | nil => rfl
  | cons c cs ih =>
    rw [List.foldl_cons] at h
    have hnext := Nat.lt_of_le_of_lt (hgrows cs _) h
    simp only [appendDigits, if_pos hnext, ih _ h, List.foldl_cons, List.length_cons]

/-- A natural number that fits a word is read as itself. -/
theorem value?_numeralOf {n : Nat} (hn : n < UInt64.size) :
    (numeralOf n).value? = some (.integer n) := by
  have hvalue : (Nat.toDigits 10 n).foldl (fun value c => value * 10 + (c.toNat - 48)) 0 = n :=
    digitsValue_toDigits n
  have hdigits : appendDigits 0 (Nat.toDigits 10 n) = (n, (Nat.toDigits 10 n).length) := by
    rw [appendDigits_eq _ _ (hvalue.symm ▸ hn), hvalue]
  have hnumeral : numeralOf n = ⟨false, Nat.toDigits 10 n, none, none⟩ := by
    rw [numeralOf, decide_eq_false (Int.not_lt.mpr (Int.natCast_nonneg n)), Int.natAbs_natCast]
  rw [hnumeral, Numeral.value?]
  simp [hdigits]

end Numerals

section Stretches

/-- How far the reading of a text has come. -/
structure Point where
  expect : Expect
  containers : List Container
  text : List Char

def Point.events (p : Point) : List Event × Bool := eventsFrom p.expect p.containers p.text

/-- Between the two points the text gives the events `es`. -/
def Point.Yields (p : Point) (es : List Event) (q : Point) : Prop :=
  p.events = (es ++ q.events.1, q.events.2)

variable {p q r : Point} {es es' : List Event} {c : Char} {expect expect' : Expect}
  {open_ open' : List Container} {text rest : List Char} {e : Event}

private theorem Point.Yields.trans (h : p.Yields es q) (h' : q.Yields es' r) :
    p.Yields (es ++ es') r := by
  rw [Yields] at *
  rw [h, h', List.append_assoc]

/-- A mark where one is expected, its events, and what is expected after it. -/
inductive Mark : Char → Expect → List Container → List Event → Expect → List Container → Prop where
  | beginArray (open_ : List Container) :
      Mark '[' .value open_ [.beginArray] .firstItem (.array :: open_)
  | beginObject (open_ : List Container) :
      Mark '\x7b' .value open_ [.beginObject] .firstMember (.object :: open_)
  | emptyArray (open_ : List Container) :
      Mark ']' .firstItem (.array :: open_) [.endArray] .afterValue open_
  | endArray (open_ : List Container) :
      Mark ']' .afterValue (.array :: open_) [.endArray] .afterValue open_
  | emptyObject (open_ : List Container) :
      Mark '\x7d' .firstMember (.object :: open_) [.endObject] .afterValue open_
  | endObject (open_ : List Container) :
      Mark '\x7d' .afterValue (.object :: open_) [.endObject] .afterValue open_
  | colon (open_ : List Container) : Mark ':' .colon open_ [] .value open_
  | nextItem (open_ : List Container) :
      Mark ',' .afterValue (.array :: open_) [] .value (.array :: open_)
  | nextMember (open_ : List Container) :
      Mark ',' .afterValue (.object :: open_) [] .member (.object :: open_)

private theorem Mark.yields (h : Mark c expect open_ es expect' open') (text : List Char) :
    Point.Yields ⟨expect, open_, c :: text⟩ es ⟨expect', open', text⟩ := by
  cases h
  all_goals
    simp only [Point.Yields, Point.events]
    rw [eventsFrom]
    rfl

private theorem yields_scalar (hscan : scanScalar? (c :: text) = some (e, rest))
    (hspace : isSpace c = false) (harray : c ≠ '[') (hobject : c ≠ '\x7b') :
    Point.Yields ⟨.value, open_, c :: text⟩ [e] ⟨.afterValue, open_, rest⟩ := by
  simp only [Point.Yields, Point.events]
  rw [eventsFrom]
  simp only [hspace, harray, hobject, Bool.false_eq_true, if_false]
  split
  next h =>
    rw [hscan] at h
    cases h
  next h =>
    rw [hscan] at h
    cases h
    rfl

private theorem yields_firstItem (hspace : isSpace c = false) (h : c ≠ ']') :
    Point.Yields ⟨.firstItem, open_, c :: text⟩ [] ⟨.value, open_, c :: text⟩ := by
  simp only [Point.Yields, Point.events, List.nil_append]
  rw [eventsFrom.eq_def .firstItem, eventsFrom.eq_def .value]
  simp only [hspace, h, Bool.false_eq_true, if_false]

private theorem yields_firstMember :
    Point.Yields ⟨.firstMember, open_, '"' :: text⟩ [] ⟨.member, open_, '"' :: text⟩ := by
  simp only [Point.Yields, Point.events, List.nil_append]
  rw [eventsFrom.eq_def .firstMember, eventsFrom.eq_def .member]
  rfl

private theorem yields_key (name : String) :
    Point.Yields ⟨.member, open_, quotedChars name ++ rest⟩ [.key (name.toList.map pieceOf)]
      ⟨.colon, open_, rest⟩ := by
  have hscan : scanText? (name.toList.flatMap escapeChar ++ ['"'] ++ rest) =
      some (name.toList.map pieceOf, rest) := by
    rw [List.append_assoc]
    exact scanText?_quoted _ _
  have hspace : isSpace '"' = false := by decide
  simp only [Point.Yields, Point.events, quotedChars, List.cons_append]
  rw [eventsFrom]
  simp only [hspace, Bool.false_eq_true, if_false, if_true]
  split
  next h =>
    rw [hscan] at h
    cases h
  next h =>
    rw [hscan] at h
    cases h
    rfl

end Stretches

mutual

/-- The events of a value. -/
def stream : Json → List Event
  | .null => [.null]
  | .bool b => [.bool b]
  | .integer n => [.number (numeralOf n)]
  | .text s => [.text (s.toList.map pieceOf)]
  | .array items => .beginArray :: itemStream items ++ [.endArray]
  | .object members => .beginObject :: memberStream members ++ [.endObject]

def itemStream : List Json → List Event
  | [] => []
  | item :: rest => item.stream ++ itemStream rest

def memberStream : List (String × Json) → List Event
  | [] => []
  | (name, value) :: rest =>
    .key (name.toList.map pieceOf) :: value.stream ++ memberStream rest

end

private theorem exists_integer_eq_cons (n : Int) :
    ∃ c cs, (toString n).toList = c :: cs ∧ (c = '-' ∨ c.isDigit = true) := by
  rw [toString_int_toList]
  split
  next =>
    cases hdigits : Nat.toDigits 10 n.toNat with
    | nil => exact absurd hdigits Nat.toDigits_ne_nil
    | cons c cs =>
      exact ⟨c, cs, rfl, .inr (isDigit_of_mem_toDigits (hdigits ▸ List.mem_cons_self))⟩
  next => exact ⟨'-', _, rfl, .inl rfl⟩

private theorem ne_of_integer {c d : Char} (h : c = '-' ∨ c.isDigit = true) (hdash : d ≠ '-')
    (hdigit : d.isDigit = false) : c ≠ d := by
  rintro rfl
  rcases h with h | h
  · exact hdash h
  · exact Bool.false_ne_true (hdigit.symm.trans h)

private theorem isSpace_of_integer {c : Char} (h : c = '-' ∨ c.isDigit = true) :
    isSpace c = false := by
  simp only [isSpace, Bool.or_eq_false_iff, beq_eq_false_iff_ne]
  refine ⟨⟨⟨?_, ?_⟩, ?_⟩, ?_⟩
  all_goals exact ne_of_integer h (by decide) (by decide)

private theorem scanScalar?_integer (n : Int) {rest : List Char} (hrest : EndsNumeral rest) :
    scanScalar? ((toString n).toList ++ rest) = some (.number (numeralOf n), rest) := by
  have hscan := scanNumeral?_toString n hrest
  obtain ⟨c, cs, hcs, hc⟩ := exists_integer_eq_cons n
  rw [hcs, List.cons_append] at hscan ⊢
  have hother : ∀ d ds, d ≠ '-' → d.isDigit = false → c :: (cs ++ rest) ≠ d :: ds := by
    intro d ds hdash hdigit heq
    exact ne_of_integer hc hdash hdigit (List.cons.inj heq).1
  rw [scanScalar?, hscan, Option.map_some]
  · exact fun tail => hother 'n' _ (by decide) (by decide)
  · exact fun tail => hother 't' _ (by decide) (by decide)
  · exact fun tail => hother 'f' _ (by decide) (by decide)
  · exact fun tail => hother '"' _ (by decide) (by decide)

private theorem scanScalar?_quoted (s : String) (rest : List Char) :
    scanScalar? (quotedChars s ++ rest) = some (.text (s.toList.map pieceOf), rest) := by
  rw [quotedChars, List.cons_append, List.cons_append, List.append_assoc, scanScalar?]
  rw [show ['"'] ++ rest = '"' :: rest from rfl, scanText?_quoted, Option.map_some]

private theorem exists_chars_eq_cons (j : Json) :
    ∃ c cs, j.chars = c :: cs ∧ isSpace c = false ∧ c ≠ ']' := by
  cases j with
  | null => exact ⟨'n', _, rfl, by decide, by decide⟩
  | bool b => cases b <;> exact ⟨_, _, rfl, by decide, by decide⟩
  | integer n =>
    obtain ⟨c, cs, hcs, hc⟩ := exists_integer_eq_cons n
    exact ⟨c, cs, hcs, isSpace_of_integer hc, ne_of_integer hc (by decide) (by decide)⟩
  | text s => exact ⟨'"', _, rfl, by decide, by decide⟩
  | array items => exact ⟨'[', _, rfl, by decide, by decide⟩
  | object members => exact ⟨'\x7b', _, rfl, by decide, by decide⟩

private theorem itemChars_cons (item : Json) (items : List Json) :
    itemChars (item :: items) =
      item.chars ++ if items.isEmpty then [] else ',' :: itemChars items := by
  cases items with
  | nil => exact (List.append_nil _).symm
  | cons => rfl

private theorem memberChars_cons (name : String) (value : Json) (members : List (String × Json)) :
    memberChars ((name, value) :: members) =
      quotedChars name ++ ':' :: (value.chars ++
        if members.isEmpty then [] else ',' :: memberChars members) := by
  cases members with
  | nil => simp [memberChars]
  | cons => simp [memberChars]

private theorem endsNumeral_cons {c : Char} (rest : List Char)
    (h : c = ',' ∨ c = ']' ∨ c = '\x7d') : EndsNumeral (c :: rest) := by
  intro d hd
  cases hd
  rcases h with rfl | rfl | rfl <;> decide

mutual

/-- Where a value is expected, its text yields its events. -/
theorem yields_chars (j : Json) (open_ : List Container) {rest : List Char}
    (hrest : EndsNumeral rest) :
    Point.Yields ⟨.value, open_, j.chars ++ rest⟩ j.stream ⟨.afterValue, open_, rest⟩ := by
  match j with
  | .null => exact yields_scalar (e := .null) rfl (by decide) (by decide) (by decide)
  | .bool true => exact yields_scalar (e := .bool true) rfl (by decide) (by decide) (by decide)
  | .bool false => exact yields_scalar (e := .bool false) rfl (by decide) (by decide) (by decide)
  | .integer n =>
    have hscan := scanScalar?_integer n hrest
    obtain ⟨c, cs, hcs, hc⟩ := exists_integer_eq_cons n
    rw [chars, hcs]
    rw [hcs] at hscan
    exact yields_scalar hscan (isSpace_of_integer hc) (ne_of_integer hc (by decide) (by decide))
      (ne_of_integer hc (by decide) (by decide))
  | .text s => exact yields_scalar (scanScalar?_quoted s rest) (by decide) (by decide) (by decide)
  | .array [] => exact ((Mark.beginArray open_).yields _).trans ((Mark.emptyArray open_).yields rest)
  | .array (item :: items) =>
    obtain ⟨c, cs, hcs, hspace, hend⟩ := exists_chars_eq_cons item
    have hfirst : Point.Yields ⟨.firstItem, .array :: open_, itemChars (item :: items) ++ ']' :: rest⟩
        [] ⟨.value, .array :: open_, itemChars (item :: items) ++ ']' :: rest⟩ := by
      rw [itemChars_cons, hcs]
      exact yields_firstItem hspace hend
    have hyields := (((Mark.beginArray open_).yields _).trans hfirst).trans
      ((yields_itemChars (item :: items) (List.cons_ne_nil _ _) open_ rest).trans
        ((Mark.endArray open_).yields rest))
    simpa only [chars, stream, List.cons_append, List.nil_append, List.append_assoc] using hyields
  | .object [] =>
    exact ((Mark.beginObject open_).yields _).trans ((Mark.emptyObject open_).yields rest)
  | .object (member :: members) =>
    have hfirst : Point.Yields
        ⟨.firstMember, .object :: open_, memberChars (member :: members) ++ '\x7d' :: rest⟩
        [] ⟨.member, .object :: open_, memberChars (member :: members) ++ '\x7d' :: rest⟩ := by
      rw [memberChars_cons]
      exact yields_firstMember
    have hyields := (((Mark.beginObject open_).yields _).trans hfirst).trans
      ((yields_memberChars (member :: members) (List.cons_ne_nil _ _) open_ rest).trans
        ((Mark.endObject open_).yields rest))
    simpa only [chars, stream, List.cons_append, List.nil_append, List.append_assoc] using hyields

/-- The items of an array are read up to the bracket that closes it. -/
theorem yields_itemChars (items : List Json) (hitems : items ≠ []) (open_ : List Container)
    (rest : List Char) :
    Point.Yields ⟨.value, .array :: open_, itemChars items ++ ']' :: rest⟩ (itemStream items)
      ⟨.afterValue, .array :: open_, ']' :: rest⟩ := by
  match items, hitems with
  | [item], _ =>
    have hitem := yields_chars item (.array :: open_) (endsNumeral_cons rest (.inr (.inl rfl)))
    rwa [itemStream, itemStream, List.append_nil]
  | item :: next :: items, _ =>
    have hitem := yields_chars item (.array :: open_)
      (endsNumeral_cons (itemChars (next :: items) ++ ']' :: rest) (.inl rfl))
    have hyields := hitem.trans (((Mark.nextItem open_).yields _).trans
      (yields_itemChars (next :: items) (List.cons_ne_nil _ _) open_ rest))
    rwa [itemChars_cons, itemStream, List.append_assoc]

/-- The members of an object are read up to the brace that closes it. -/
theorem yields_memberChars (members : List (String × Json)) (hmembers : members ≠ [])
    (open_ : List Container) (rest : List Char) :
    Point.Yields ⟨.member, .object :: open_, memberChars members ++ '\x7d' :: rest⟩
      (memberStream members) ⟨.afterValue, .object :: open_, '\x7d' :: rest⟩ := by
  match members, hmembers with
  | [(name, value)], _ =>
    have hvalue := yields_chars value (.object :: open_) (endsNumeral_cons rest (.inr (.inr rfl)))
    have hyields := (yields_key name).trans (((Mark.colon (.object :: open_)).yields _).trans hvalue)
    rw [memberChars_cons]
    simpa [memberStream] using hyields
  | (name, value) :: next :: members, _ =>
    have hvalue := yields_chars value (.object :: open_)
      (endsNumeral_cons (memberChars (next :: members) ++ '\x7d' :: rest) (.inl rfl))
    have hyields := ((yields_key name).trans (((Mark.colon (.object :: open_)).yields _).trans
      hvalue)).trans (((Mark.nextMember open_).yields _).trans
        (yields_memberChars (next :: members) (List.cons_ne_nil _ _) open_ rest))
    rw [memberChars_cons, memberStream]
    simpa using hyields

end

/-- The text of a value is read as its events, and is complete. -/
theorem events_render (j : Json) : events j.render = (j.stream, true) := by
  have hend : EndsNumeral [] := nofun
  have hyields := yields_chars j [] hend
  rw [List.append_nil] at hyields
  rw [Point.Yields] at hyields
  rw [events, render, String.toList_ofList]
  refine hyields.trans ?_
  simp only [Point.events, eventsFrom, List.append_nil]
  rfl

end TenantGateway.Json
