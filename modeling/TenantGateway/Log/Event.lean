import TenantGateway.Log.Filter

/-!
Log events and the lines that they are written as.
-/

namespace TenantGateway.Log

/-- Something that happened, where in the program, with figures that belong to it. -/
structure Event where
  level : Level
  target : String
  text : String
  fields : List (String × String)
  deriving DecidableEq, Repr

/-- The names of an event's fields; its text is the field `message`. -/
def Event.fieldNames (e : Event) : List String := "message" :: e.fields.map (·.1)

/-- The line of an event, from its level on, which is aligned at the right. -/
def Event.line (e : Event) (showTarget : Bool) : String :=
  let level := String.ofList (List.replicate (5 - e.level.name.length) ' ') ++ e.level.name
  let target := if showTarget then e.target ++ ": " else ""
  let fields := e.fields.map fun (name, value) => " " ++ name ++ "=" ++ value
  level ++ " " ++ target ++ e.text ++ String.join fields

/-- The lines of the events that a filter lets through. -/
def Filter.lines (f : Filter) (showTarget : Bool) (events : List Event) : List String :=
  (events.filter fun e => f.passes e.target e.fieldNames e.level).map (·.line showTarget)

end TenantGateway.Log
