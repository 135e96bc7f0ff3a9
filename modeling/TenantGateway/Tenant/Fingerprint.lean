import TenantGateway.Digest.Sha256
import TenantGateway.Text.Blank
import Std.Data.ExtTreeMap

/-!
Fingerprints stand for credentials wherever something is stored or written: the SHA-256 digest of
the credential, so that the credential itself stays with the request.
-/

namespace TenantGateway.Tenant

structure Fingerprint where
  text : String
  deriving DecidableEq, Repr, Inhabited

namespace Fingerprint

/-- The fingerprint of a credential. -/
def ofCredential (credential : String) : Fingerprint := ⟨Digest.Sha256.hexText credential⟩

/-- A digest as someone has written it down: white space around it and the case of its letters do
not matter. -/
def ofDigest (s : String) : Fingerprint := ⟨Text.lowercaseAscii (Text.trim s)⟩

/-- The characters that fill exactly `n` bytes, if the text can be cut there. -/
def bytePrefix? : Nat → List Char → Option (List Char)
  | 0, _ => some []
  | _, [] => none
  | n + 1, c :: cs =>
    if n + 1 < c.utf8Size then none else (bytePrefix? (n + 1 - c.utf8Size) cs).map (c :: ·)
termination_by _ cs => cs.length

/-- The first twelve bytes; the whole text when it is shorter or cannot be cut there. -/
def short (f : Fingerprint) : String :=
  ((bytePrefix? 12 f.text.toList).map String.ofList).getD f.text

/-- Fingerprints are ordered as texts. -/
instance : Ord Fingerprint := ⟨fun a b => compare a.text b.text⟩

/-- Fingerprints are in the order of their texts. -/
theorem compare_def (a b : Fingerprint) : compare a b = compare a.text b.text := rfl

instance : Std.TransOrd Fingerprint where
  eq_swap := by
    intro a b
    rw [compare_def, compare_def]
    exact Std.OrientedCmp.eq_swap
  isLE_trans := by
    intro a b c
    rw [compare_def, compare_def, compare_def]
    exact Std.TransCmp.isLE_trans

instance : Std.LawfulEqOrd Fingerprint where
  compare_self := by
    intro a
    rw [compare_def]
    exact Std.ReflCmp.compare_self
  eq_of_compare := by
    intro a b h
    rw [compare_def] at h
    have : a.text = b.text := Std.LawfulEqCmp.eq_of_compare h
    cases a; cases b; simp_all

end Fingerprint

end TenantGateway.Tenant
