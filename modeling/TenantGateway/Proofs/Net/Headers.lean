import TenantGateway.Pipeline.Forwarding

/-! The values of one name under each change to header fields, and the way of the request's own name:
a backend gets it once, whatever the client has sent. -/
namespace TenantGateway

namespace Headers

/-- The value of a name is the first of its values. -/
theorem get?_eq_head?_getAll (h : Headers) (name : String) :
    h.get? name = (h.getAll name).head? := by
  rw [get?, getAll, List.head?_map, List.head?_filter]

/-- The values of one list come before those of the other. -/
@[simp] theorem getAll_append (h g : Headers) (name : String) :
    getAll (h ++ g) name = h.getAll name ++ g.getAll name := by
  simp only [getAll, List.filter_append, List.map_append]

/-- A name that is removed has no values. -/
@[simp] theorem getAll_remove_self (h : Headers) (name : String) :
    (h.remove name).getAll name = [] := by
  simp only [getAll, remove, List.filter_filter, List.map_eq_nil_iff, List.filter_eq_nil_iff]
  intro f _
  cases hf : f.1 == name <;> simp [hf, bne]

/-- Removing a name leaves the values of the others. -/
theorem getAll_remove_of_ne (h : Headers) {name other : String} (hne : name ≠ other) :
    (h.remove name).getAll other = h.getAll other := by
  simp only [getAll, remove, List.filter_filter]
  congr 2
  funext f
  by_cases hf : f.1 = other
  · subst hf
    simp [hne.symm]
  · simp [hf]

/-- A name that is removed has no value. -/
theorem get?_remove_self (h : Headers) (name : String) : (h.remove name).get? name = none := by
  rw [get?_eq_head?_getAll, getAll_remove_self]
  rfl

/-- Removing a name leaves the value of another one. -/
theorem get?_remove_of_ne (h : Headers) {name other : String} (hne : name ≠ other) :
    (h.remove name).get? other = h.get? other := by
  rw [get?_eq_head?_getAll, getAll_remove_of_ne h hne, ← get?_eq_head?_getAll]

private theorem getAll_singleton_self (name value : String) :
    getAll [(name, value)] name = [value] := by
  simp [getAll]

/-- A single field has no values under another name. -/
theorem getAll_singleton_of_ne {name other : String} (value : String) (hne : name ≠ other) :
    getAll [(name, value)] other = [] := by
  simp [getAll, hne]

/-- A name that is set has the one value. -/
@[simp] theorem getAll_set_self (h : Headers) (name value : String) :
    (h.set name value).getAll name = [value] := by
  rw [set, getAll_append, getAll_remove_self, getAll_singleton_self]
  rfl

/-- Setting a name leaves the values of the others. -/
theorem getAll_set_of_ne (h : Headers) {name other : String} (value : String)
    (hne : name ≠ other) : (h.set name value).getAll other = h.getAll other := by
  rw [set, getAll_append, getAll_remove_of_ne h hne, getAll_singleton_of_ne value hne,
    List.append_nil]

/-- Setting a name to a valid value gives it the one value. -/
theorem getAll_setValid_self (h : Headers) {name value : String} (hvalue : isValue value) :
    (h.setValid name value).getAll name = [value] := by
  rw [setValid, if_pos hvalue, getAll_set_self]

/-- Setting a name leaves the others, whether the value is valid or not. -/
theorem getAll_setValid_of_ne (h : Headers) {name other : String} (value : String)
    (hne : name ≠ other) : (h.setValid name value).getAll other = h.getAll other := by
  rw [setValid]
  split
  · exact getAll_set_of_ne h value hne
  · rfl

/-- A change to all values changes those of each name in their order. -/
theorem getAll_map_values (h : Headers) (f : String → String) (name : String) :
    getAll (h.map fun (n, v) => (n, f v)) name = (h.getAll name).map f := by
  induction h with
  | nil => rfl
  | cons field h ih =>
    simp only [getAll, List.map_cons, List.filter_cons] at *
    split <;> simp [ih]

end Headers

namespace Forwarding

/-- The peer is noted in three fields, and the others are left alone. -/
theorem getAll_addForwarded (h : Headers) (peer : Net.IpAddress) {name : String}
    (hfor : "x-forwarded-for" ≠ name) (hhost : "x-forwarded-host" ≠ name)
    (hproto : "x-forwarded-proto" ≠ name) : (addForwarded h peer).getAll name = h.getAll name := by
  simp only [addForwarded]
  rw [Headers.getAll_set_of_ne _ _ hproto]
  split
  · rw [Headers.getAll_set_of_ne _ _ hhost, Headers.getAll_setValid_of_ne _ _ hfor]
  · rw [Headers.getAll_setValid_of_ne _ _ hfor]

/-- The gateway's name for a request takes the place of all others. -/
theorem getAll_requestId (h : Headers) (organization keyId : String) {id : String}
    (hid : Headers.isValue id) :
    (injectIdentity h organization keyId id).getAll "x-request-id" = [id] := by
  rw [injectIdentity, replace, Headers.getAll_setValid_self _ hid]

end Forwarding

end TenantGateway
