import TenantGateway.Text.Numeral

/-!
JSON read as a stream of events. The scanner checks the grammar only: texts stay sequences of
characters and escapes, and numerals stay digits, so that a reader decides what it needs of them.
`events` gives every event before the first fault, and whether the text was complete.
-/

namespace TenantGateway.Json

/-- A piece of a JSON text: a character, or a four-digit escape. -/
inductive Piece where
  | char (c : Char)
  | unit (n : Nat)
  deriving DecidableEq, Repr

/-- The parts of a JSON numeral. -/
structure Numeral where
  negative : Bool
  whole : List Char
  fraction : Option (List Char)
  exponent : Option (Bool × List Char)
  deriving DecidableEq, Repr

inductive Event where
  | null
  | bool (b : Bool)
  | number (n : Numeral)
  | text (pieces : List Piece)
  | key (pieces : List Piece)
  | beginArray
  | endArray
  | beginObject
  | endObject
  deriving DecidableEq, Repr

def isSpace (c : Char) : Bool :=
  c == ' ' || c == '\n' || c == '\t' || c == '\r'

def hexUnit? (a b c d : Char) : Option Nat := do
  let a ← Text.hexValue? a
  let b ← Text.hexValue? b
  let c ← Text.hexValue? c
  let d ← Text.hexValue? d
  return ((a * 16 + b) * 16 + c) * 16 + d

/-- The character that a one-letter escape stands for. -/
def simpleEscape? : Char → Option Char
  | '"' => some '"'
  | '\\' => some '\\'
  | '/' => some '/'
  | 'b' => some '\x08'
  | 'f' => some '\x0c'
  | 'n' => some '\n'
  | 'r' => some '\r'
  | 't' => some '\t'
  | _ => none

/-- Reads a text up to its closing quote; gives the pieces and what follows the quote. -/
def scanText? : List Char → Option (List Piece × List Char)
  | [] => none
  | '"' :: rest => some ([], rest)
  | '\\' :: 'u' :: a :: b :: c :: d :: rest => do
    let n ← hexUnit? a b c d
    let (pieces, rest) ← scanText? rest
    return (.unit n :: pieces, rest)
  | '\\' :: c :: rest => do
    let c ← simpleEscape? c
    let (pieces, rest) ← scanText? rest
    return (.char c :: pieces, rest)
  | c :: rest =>
    if c.toNat < 32 ∨ c = '\\' then none
    else do
      let (pieces, rest) ← scanText? rest
      return (.char c :: pieces, rest)

/-- A text takes a character at least, its closing mark. -/
theorem length_of_scanText? {cs rest : List Char} {pieces : List Piece}
    (h : scanText? cs = some (pieces, rest)) : rest.length < cs.length := by
  fun_induction scanText? cs generalizing pieces rest with
  | case1 => simp at h
  | case2 => simp_all
  | case3 a b c d tail ih =>
    simp only [Option.bind_eq_bind, Option.bind_eq_some_iff, Prod.exists, Option.pure_def,
      Option.some.injEq, Prod.mk.injEq] at h
    obtain ⟨_, _, _, _, hs, _, rfl⟩ := h
    have := ih hs
    simp; omega
  | case4 c tail _ ih =>
    simp only [Option.bind_eq_bind, Option.bind_eq_some_iff, Prod.exists, Option.pure_def,
      Option.some.injEq, Prod.mk.injEq] at h
    obtain ⟨_, _, _, _, hs, _, rfl⟩ := h
    have := ih hs
    simp; omega
  | case5 => simp at h
  | case6 c tail _ _ _ _ ih =>
    simp only [Option.bind_eq_bind, Option.bind_eq_some_iff, Prod.exists, Option.pure_def,
      Option.some.injEq, Prod.mk.injEq] at h
    obtain ⟨_, _, hs, _, rfl⟩ := h
    have := ih hs
    simp; omega

/-- The whole part of a numeral: one zero, or digits that start with another one. -/
def scanWhole? : List Char → Option (List Char × List Char)
  | '0' :: rest => some (['0'], rest)
  | c :: rest =>
    if c.isDigit then some (c :: rest.takeWhile Char.isDigit, rest.dropWhile Char.isDigit) else none
  | [] => none

/-- A point and at least one digit, where there is a point. -/
def scanFraction? : List Char → Option (Option (List Char) × List Char)
  | '.' :: rest =>
    let digits := rest.takeWhile Char.isDigit
    if digits.isEmpty then none else some (some digits, rest.dropWhile Char.isDigit)
  | cs => some (none, cs)

/-- The exponent mark, a sign if any, and at least one digit, where there is a mark. The sign is
negative when the first component is true. -/
def scanExponent? : List Char → Option (Option (Bool × List Char) × List Char)
  | c :: rest =>
    if c = 'e' ∨ c = 'E' then
      let (negative, rest) :=
        match rest with
        | '-' :: rest => (true, rest)
        | '+' :: rest => (false, rest)
        | rest => (false, rest)
      let digits := rest.takeWhile Char.isDigit
      if digits.isEmpty then none
      else some (some (negative, digits), rest.dropWhile Char.isDigit)
    else some (none, c :: rest)
  | [] => some (none, [])

def scanNumeral? (cs : List Char) : Option (Numeral × List Char) := do
  let (negative, cs) :=
    match cs with
    | '-' :: rest => (true, rest)
    | cs => (false, cs)
  let (whole, cs) ← scanWhole? cs
  let (fraction, cs) ← scanFraction? cs
  let (exponent, cs) ← scanExponent? cs
  return ({ negative, whole, fraction, exponent }, cs)

/-- The whole part of a number has a digit at least. -/
theorem length_of_scanWhole? {cs digits rest : List Char}
    (h : scanWhole? cs = some (digits, rest)) : rest.length < cs.length := by
  unfold scanWhole? at h
  split at h
  · simp_all
  · split at h
    · simp only [Option.some.injEq, Prod.mk.injEq] at h
      rw [← h.2]
      exact Nat.lt_succ_of_le ((List.dropWhile_suffix _).length_le)
    · simp at h
  · simp at h

/-- There may be no fraction to read. -/
theorem length_of_scanFraction? {cs rest : List Char} {f : Option (List Char)}
    (h : scanFraction? cs = some (f, rest)) : rest.length ≤ cs.length := by
  unfold scanFraction? at h
  split at h
  next r =>
    have := (List.dropWhile_suffix Char.isDigit (l := r)).length_le
    simp only at h
    split at h <;> simp at h
    simp [← h.2]; omega
  · simp_all

/-- There may be no exponent to read. -/
theorem length_of_scanExponent? {cs rest : List Char} {e : Option (Bool × List Char)}
    (h : scanExponent? cs = some (e, rest)) : rest.length ≤ cs.length := by
  unfold scanExponent? at h
  split at h
  next c r =>
    split at h
    · have key : ∀ t : List Char, t.length ≤ r.length →
          (t.dropWhile Char.isDigit).length ≤ (c :: r).length := by
        intro t ht
        have := (List.dropWhile_suffix Char.isDigit (l := t)).length_le
        simp; omega
      simp only at h
      split at h <;> simp at h <;> (rw [← h.2.2]; apply key; simp)
    · simp_all
  · simp_all

/-- A number takes a character at least. -/
theorem length_of_scanNumeral? {cs rest : List Char} {n : Numeral}
    (h : scanNumeral? cs = some (n, rest)) : rest.length < cs.length := by
  simp only [scanNumeral?, Option.bind_eq_bind, Option.bind_eq_some_iff, Prod.exists,
    Option.pure_def, Option.some.injEq, Prod.mk.injEq] at h
  obtain ⟨_, t, hw, _, u, hf, _, v, he, _, rfl⟩ := h
  have h1 := length_of_scanWhole? hw
  have h2 := length_of_scanFraction? hf
  have h3 := length_of_scanExponent? he
  split at h1 <;> simp at * <;> omega

/-- A scalar that starts at the head of the text. -/
def scanScalar? : List Char → Option (Event × List Char)
  | 'n' :: 'u' :: 'l' :: 'l' :: rest => some (.null, rest)
  | 't' :: 'r' :: 'u' :: 'e' :: rest => some (.bool true, rest)
  | 'f' :: 'a' :: 'l' :: 's' :: 'e' :: rest => some (.bool false, rest)
  | '"' :: rest => (scanText? rest).map fun (pieces, rest) => (.text pieces, rest)
  | cs => (scanNumeral? cs).map fun (n, rest) => (.number n, rest)

/-- Whatever the scalar, it takes a character at least. -/
theorem length_of_scanScalar? {cs rest : List Char} {e : Event}
    (h : scanScalar? cs = some (e, rest)) : rest.length < cs.length := by
  unfold scanScalar? at h
  split at h
  · simp_all; omega
  · simp_all; omega
  · simp_all; omega
  · simp only [Option.map_eq_some_iff, Prod.exists, Prod.mk.injEq] at h
    obtain ⟨_, _, h, _, rfl⟩ := h
    have := length_of_scanText? h
    simp; omega
  · simp only [Option.map_eq_some_iff, Prod.exists, Prod.mk.injEq] at h
    obtain ⟨_, _, h, _, rfl⟩ := h
    exact length_of_scanNumeral? h

/-- What surrounds a value. -/
inductive Container where
  | array
  | object
  deriving DecidableEq, Repr

/-- What the grammar expects next. -/
inductive Expect where
  /-- A value. -/
  | value
  /-- A value, or the end of the array just begun. -/
  | firstItem
  /-- A member, or the end of the object just begun. -/
  | firstMember
  /-- A member. -/
  | member
  /-- The colon after a key. -/
  | colon
  /-- A comma or the end of the container; the end of the text at the top. -/
  | afterValue
  deriving DecidableEq, Repr

/-- The events of a text from a point inside it, and whether the rest is well formed. -/
def eventsFrom (expect : Expect) (open_ : List Container) : List Char → List Event × Bool
  | [] => ([], expect == .afterValue && open_.isEmpty)
  | c :: rest =>
    let emit (e : Event) (r : List Event × Bool) : List Event × Bool := (e :: r.1, r.2)
    let value : Unit → List Event × Bool := fun _ =>
      if c = '[' then emit .beginArray (eventsFrom .firstItem (.array :: open_) rest)
      else if c = '\x7b' then emit .beginObject (eventsFrom .firstMember (.object :: open_) rest)
      else
        match h : scanScalar? (c :: rest) with
        | none => ([], false)
        | some (e, tail) =>
          have : tail.length < rest.length + 1 := length_of_scanScalar? h
          emit e (eventsFrom .afterValue open_ tail)
    let member : Unit → List Event × Bool := fun _ =>
      if c = '"' then
        match h : scanText? rest with
        | none => ([], false)
        | some (pieces, tail) =>
          have := length_of_scanText? h
          emit (.key pieces) (eventsFrom .colon open_ tail)
      else ([], false)
    let close : Unit → List Event × Bool := fun _ =>
      match open_ with
      | .array :: outer =>
        if c = ']' then emit .endArray (eventsFrom .afterValue outer rest) else ([], false)
      | .object :: outer =>
        if c = '\x7d' then emit .endObject (eventsFrom .afterValue outer rest) else ([], false)
      | [] => ([], false)
    if isSpace c then eventsFrom expect open_ rest
    else
      match expect with
      | .value => value ()
      | .firstItem => if c = ']' then close () else value ()
      | .firstMember => if c = '\x7d' then close () else member ()
      | .member => member ()
      | .colon => if c = ':' then eventsFrom .value open_ rest else ([], false)
      | .afterValue =>
        if c = ',' then
          match open_ with
          | .array :: _ => eventsFrom .value open_ rest
          | .object :: _ => eventsFrom .member open_ rest
          | [] => ([], false)
        else close ()
termination_by cs => cs.length

/-- The events of a JSON text up to its first fault, and whether there is none. -/
def events (s : String) : List Event × Bool :=
  eventsFrom .value [] s.toList

/-- Joins surrogate halves; a half that stands alone has no character. -/
def pieceChars? : List Piece → Option (List Char)
  | [] => some []
  | .char c :: rest => (pieceChars? rest).map (c :: ·)
  | .unit high :: .unit low :: rest =>
    if 0xD800 ≤ high ∧ high ≤ 0xDBFF then
      if 0xDC00 ≤ low ∧ low ≤ 0xDFFF then
        (pieceChars? rest).map
          (Char.ofNat (0x10000 + (high - 0xD800) * 0x400 + (low - 0xDC00)) :: ·)
      else none
    else if 0xDC00 ≤ high ∧ high ≤ 0xDFFF then none
    else (pieceChars? (.unit low :: rest)).map (Char.ofNat high :: ·)
  | .unit n :: rest =>
    if 0xD800 ≤ n ∧ n ≤ 0xDFFF then none else (pieceChars? rest).map (Char.ofNat n :: ·)

/-- The text that the pieces spell. -/
def pieceText? (pieces : List Piece) : Option String :=
  (pieceChars? pieces).map String.ofList

/-- Drops one whole value from the front of a stream, counting the containers still open. -/
def skipValue (depth : Nat) : List Event → List Event
  | [] => []
  | e :: rest =>
    match e, depth with
    | .beginArray, _ | .beginObject, _ => skipValue (depth + 1) rest
    | .endArray, 0 | .endObject, 0 => rest
    | .endArray, 1 | .endObject, 1 => rest
    | .endArray, d + 2 | .endObject, d + 2 => skipValue (d + 1) rest
    | .key _, _ => skipValue depth rest
    | _, 0 => rest
    | _, d + 1 => skipValue (d + 1) rest

end TenantGateway.Json
