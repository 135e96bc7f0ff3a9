import TenantGateway.Usage.Event
import TenantGateway.Json.Number

/-!
Reading a usage event back from its JSON text. The reader follows the stream and stops at the first
fault: a value of the wrong kind counts as soon as it stands, even where the text breaks off later.
Members may come in any order and unknown ones are skipped; an array gives the members in order.
-/

namespace TenantGateway.Usage

open Calendar (Timestamp)
open Decode (Fault)

/-- Members of a written event. -/
inductive Field where
  | requestId
  | organization
  | keyId
  | endpoint
  | method
  | status
  | responseMillis
  | time
  | billable
  deriving DecidableEq, Repr

namespace Field

/-- The members in the order in which they are written. -/
def all : List Field :=
  [.requestId, .organization, .keyId, .endpoint, .method, .status, .responseMillis, .time,
    .billable]

def name : Field → String
  | .requestId => "requestId"
  | .organization => "organizationId"
  | .keyId => "apiKeyId"
  | .endpoint => "endpoint"
  | .method => "method"
  | .status => "statusCode"
  | .responseMillis => "responseTimeMs"
  | .time => "timestamp"
  | .billable => "billable"

def ofName? (s : String) : Option Field := all.find? (·.name == s)

/-- The type of a member's value. -/
@[reducible] def Value : Field → Type
  | .status => UInt16
  | .responseMillis => UInt64
  | .time => Timestamp
  | .billable => Bool
  | _ => String

/-- What a member's value has to be, in the words of a diagnostic. -/
def expected : Field → String
  | .status => "u16"
  | .responseMillis => "u64"
  | .time => "an RFC 3339 formatted date and time string"
  | .billable => "a boolean"
  | _ => "a string"

end Field

/-- Why a text is not a usage event. -/
inductive ReadError where
  /-- The text is not JSON, or ends too early. -/
  | malformed
  | fault (f : Fault)
  deriving DecidableEq, Repr

/-- What an event of the stream is, for a diagnostic; a text or number without value is
malformed. -/
def foundAt (e : Json.Event) : Except ReadError Decode.Found :=
  match e with
  | .null => .ok .null
  | .bool b => .ok (.boolean b)
  | .number n =>
    match n.value? with
    | some v => .ok v.found
    | none => .error .malformed
  | .text pieces =>
    match Json.pieceText? pieces with
    | some s => .ok (.text s)
    | none => .error .malformed
  | .beginArray => .ok .sequence
  | .beginObject => .ok .map
  | _ => .error .malformed

def mismatch (e : Json.Event) (expected : String) : ReadError :=
  match foundAt e with
  | .ok found => .fault (.invalidType found expected)
  | .error err => err

def readWord (bound : Nat) (expected : String) (e : Json.Event) : Except ReadError Nat :=
  match e with
  | .number n =>
    match n.value? with
    | some (.integer i) =>
      match Decode.unsigned bound expected i with
      | .ok v => .ok v
      | .error f => .error (.fault f)
    | _ => .error (mismatch e expected)
  | _ => .error (mismatch e expected)

def readText (expected : String) (e : Json.Event) : Except ReadError String :=
  match e with
  | .text pieces =>
    match Json.pieceText? pieces with
    | some s => .ok s
    | none => .error .malformed
  | _ => .error (mismatch e expected)

/-- Reads the value of a member from the event at which it begins. -/
def Field.read (e : Json.Event) : (f : Field) → Except ReadError f.Value
  | .status => (readWord 65535 "u16" e).map UInt16.ofNat
  | .responseMillis => (readWord (UInt64.size - 1) "u64" e).map UInt64.ofNat
  | .time => do
    let s ← readText Field.time.expected e
    match Timestamp.parse s with
    | .ok t => .ok t
    | .error err => .error (.fault (.refused err.message))
  | .billable =>
    match e with
    | .bool b => .ok b
    | _ => .error (mismatch e Field.billable.expected)
  | .requestId => readText "a string" e
  | .organization => readText "a string" e
  | .keyId => readText "a string" e
  | .endpoint => readText "a string" e
  | .method => readText "a string" e

/-- The members read so far. -/
abbrev Draft := (f : Field) → Option f.Value

namespace Draft

def empty : Draft := fun _ => none

def set (d : Draft) (f : Field) (v : f.Value) : Draft := fun g =>
  if h : f = g then some (h ▸ v) else d g

/-- A member that has to be there. -/
def get (d : Draft) (f : Field) : Except ReadError f.Value :=
  match d f with
  | some v => .ok v
  | none => .error (.fault (.missingField f.name))

/-- The event, if no member is missing; the first missing one is named. -/
def event (d : Draft) : Except ReadError Event := do
  let requestId ← d.get .requestId
  let organization ← d.get .organization
  let keyId ← d.get .keyId
  let endpoint ← d.get .endpoint
  let method ← d.get .method
  let status ← d.get .status
  let responseMillis ← d.get .responseMillis
  let time ← d.get .time
  let billable ← d.get .billable
  return {
    requestId, organization, keyId, endpoint, method, status, responseMillis, time, billable }

end Draft

/-- Skipping a value takes events away, or none. -/
theorem length_skipValue_le (depth : Nat) (es : List Json.Event) :
    (Json.skipValue depth es).length ≤ es.length := by
  induction es generalizing depth with
  | nil => simp [Json.skipValue]
  | cons e rest ih =>
    unfold Json.skipValue
    split <;> grind

/-- Reads members up to the end of the object; gives the draft and the events after it. -/
def readMembers (d : Draft) : List Json.Event → Except ReadError (Draft × List Json.Event)
  | [] => .error .malformed
  | .endObject :: rest => .ok (d, rest)
  | .key pieces :: rest =>
    match Json.pieceText? pieces with
    | none => .error .malformed
    | some name =>
      match Field.ofName? name with
      | none =>
        have := length_skipValue_le 0 rest
        readMembers d (Json.skipValue 0 rest)
      | some f =>
        if (d f).isSome then .error (.fault (.duplicateField f.name))
        else
          match rest with
          | [] => .error .malformed
          | e :: rest =>
            match f.read e with
            | .error err => .error err
            | .ok v => readMembers (d.set f v) rest
  | _ :: _ => .error .malformed
termination_by es => es.length
decreasing_by all_goals simp_all; try omega

/-- Reads the members in order from an array. -/
def readItems (d : Draft) (count : Nat) :
    List Field → List Json.Event → Except ReadError (Draft × List Json.Event)
  | [], .endArray :: rest => .ok (d, rest)
  | [], _ => .error .malformed
  | _ :: _, [] => .error .malformed
  | _ :: _, .endArray :: _ =>
    .error (.fault (.invalidLength count "struct UsageEvent with 9 elements"))
  | f :: fs, e :: rest =>
    match f.read e with
    | .error err => .error err
    | .ok v => readItems (d.set f v) (count + 1) fs rest

/-- Reads an event from its JSON text. -/
def Event.parse (s : String) : Except ReadError Event :=
  let (es, complete) := Json.events s
  let finish (r : Draft × List Json.Event) : Except ReadError Event := do
    let event ← r.1.event
    if complete ∧ r.2.isEmpty then .ok event else .error .malformed
  match es with
  | [] => .error .malformed
  | .beginObject :: rest => do finish (← readMembers .empty rest)
  | .beginArray :: rest => do finish (← readItems .empty 0 Field.all rest)
  | e :: _ => .error (mismatch e "struct UsageEvent")

end TenantGateway.Usage
