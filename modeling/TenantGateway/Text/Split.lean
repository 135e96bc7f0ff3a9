/-!
Splitting a text at a character.
-/

namespace TenantGateway.Text

/-- The text before the first `c`, and what follows it, if there is one. -/
def splitAtFirst (c : Char) (cs : List Char) : List Char × Option (List Char) :=
  let head := cs.takeWhile (· != c)
  match cs.drop head.length with
  | [] => (head, none)
  | _ :: rest => (head, some rest)

/-- The texts between the occurrences of `c`; one more than there are occurrences. -/
def splitAtEach (c : Char) : List Char → List (List Char)
  | [] => [[]]
  | d :: rest =>
    if d = c then [] :: splitAtEach c rest
    else
      match splitAtEach c rest with
      | [] => [[d]]
      | first :: others => (d :: first) :: others

end TenantGateway.Text
