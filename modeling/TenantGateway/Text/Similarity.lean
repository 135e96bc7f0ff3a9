/-!
How much two words resemble each other: by the characters that they have in common at nearby
places, and by how many of these are out of order.
-/

namespace TenantGateway.Text

/-- Takes the first free occurrence of `c` after `skip` places, within the next `reach`. -/
def takeNear (c : Char) : Nat → Nat → List (Char × Bool) → Option (List (Char × Bool))
  | _, _, [] => none
  | skip + 1, reach, x :: rest => (takeNear c skip reach rest).map (x :: ·)
  | 0, 0, _ => none
  | 0, reach + 1, (d, taken) :: rest =>
    if d = c ∧ ¬taken then some ((d, true) :: rest)
    else (takeNear c 0 reach rest).map ((d, taken) :: ·)

/-- The characters of one word that have a partner in the other, and the other word with its
partners marked; the second argument is the place of the next character. -/
def pairUp (window : Nat) :
    Nat → List Char → List (Char × Bool) → List Char × List (Char × Bool)
  | _, [], marked => ([], marked)
  | place, c :: rest, marked =>
    let skip := place - window
    match takeNear c skip (place + window + 1 - skip) marked with
    | some marked =>
      let (paired, marked) := pairUp window (place + 1) rest marked
      (c :: paired, marked)
    | none => pairUp window (place + 1) rest marked

/-- Three times the resemblance of two words, as a fraction; a denominator of zero stands for
none. -/
def resemblance (s t : List Char) : Nat × Nat :=
  let window := max s.length t.length / 2 - 1
  let (paired, marked) := pairUp window 0 s (t.map fun c => (c, false))
  let partners := (marked.filter (·.2)).map (·.1)
  let shared := paired.length
  let swaps := ((paired.zip partners).filter fun (c, d) => c != d).length / 2
  (shared * shared * (s.length + t.length) + (shared - swaps) * s.length * t.length,
    shared * s.length * t.length)

/-- The first of the words that resemble a word most, if one resembles it by more than seven
tenths. -/
def mostSimilar? (words : List String) (s : String) : Option String :=
  let score (word : String) : Nat × Nat := resemblance s.toList word.toList
  words.foldl (fun best word =>
    let (n, d) := score word
    if 10 * n ≤ 21 * d then best
    else
      match best with
      | none => some word
      | some other =>
        let (m, e) := score other
        if m * d < n * e then some word else best) none

end TenantGateway.Text
