/-!
Header fields of a message: names in lower case with their values, in order of arrival. A name may
occur several times.
-/

namespace TenantGateway

abbrev Headers := List (String × String)

namespace Headers

/-- The first value of a name. -/
def get? (h : Headers) (name : String) : Option String :=
  (h.find? fun f => f.1 == name).map (·.2)

/-- Every value of a name, in order. -/
def getAll (h : Headers) (name : String) : List String :=
  (h.filter fun f => f.1 == name).map (·.2)

/-- Drops every value of a name. -/
def remove (h : Headers) (name : String) : Headers := h.filter fun f => f.1 != name

/-- Gives a name a single value. -/
def set (h : Headers) (name value : String) : Headers := h.remove name ++ [(name, value)]

/-- Whether a text can be a field's value: no control characters but the tab. -/
def isValue (s : String) : Bool :=
  s.toList.all fun c => c == '\t' || (0x20 ≤ c.toNat && c.toNat != 0x7F)

/-- Whether a value is text: visible ASCII, blanks and tabs. -/
def isReadable (s : String) : Bool :=
  s.toList.all fun c => c == '\t' || (0x20 ≤ c.toNat && c.toNat < 0x7F)

/-- The first value of a name, if it is text. -/
def readable? (h : Headers) (name : String) : Option String := (h.get? name).filter isReadable

/-- Gives a name a single value if the text can be one, and leaves the fields alone otherwise. -/
def setValid (h : Headers) (name value : String) : Headers :=
  if isValue value then h.set name value else h

end Headers

end TenantGateway
