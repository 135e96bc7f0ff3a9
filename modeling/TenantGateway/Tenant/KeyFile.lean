import TenantGateway.Calendar.Rfc3339
import TenantGateway.Tenant.Directory
import TenantGateway.Toml.Reader

/-!
A directory kept in a file: one row for each key, which may be revoked or expire. The file is read
anew for each question.
-/

namespace TenantGateway.Tenant

open Calendar (Timestamp)
open Decode (Fault)

/-- A row of a key file. -/
structure KeyRow where
  /-- The digest as it is written in the file. -/
  digest : String
  record : Record
  revoked : Bool
  expiresAt : Option Timestamp
  deriving DecidableEq

namespace KeyRow

def fingerprint (row : KeyRow) : Fingerprint := .ofDigest row.digest

def isActive (row : KeyRow) (now : Timestamp) : Bool :=
  !row.revoked && row.expiresAt.all now.isBefore

/-- The members of a row as they are read, one after the other. -/
structure Draft where
  digest : Option String := none
  keyId : Option String := none
  organization : Option String := none
  perMinute : Option UInt64 := none
  perDay : Option UInt64 := none
  burst : UInt64 := 0
  revoked : Bool := false
  expiresAt : Option Timestamp := none

def form : Toml.Record :=
  { title := "struct KeyFileEntry"
    names := ["fingerprint", "api_key_id", "organization_id", "requests_per_minute",
      "requests_per_day", "burst_allowance", "revoked", "expires_at"] }

def readTime (v : Toml.Value) : Except Fault Timestamp := do
  match Timestamp.parse (← v.asText "an RFC 3339 formatted date and time string") with
  | .ok t => return t
  | .error e => throw (.refused e.message)

def readMember (member : String) (v : Toml.Value) (d : Draft) : Except Fault Draft := do
  match member with
  | "fingerprint" => return { d with digest := some (← v.asText "a string") }
  | "api_key_id" => return { d with keyId := some (← v.asText "a string") }
  | "organization_id" => return { d with organization := some (← v.asText "a string") }
  | "requests_per_minute" => return { d with perMinute := some (← v.asWord64) }
  | "requests_per_day" => return { d with perDay := some (← v.asWord64) }
  | "burst_allowance" => return { d with burst := ← v.asWord64 }
  | "revoked" => return { d with revoked := ← v.asBool }
  | "expires_at" => return { d with expiresAt := some (← readTime v) }
  | _ => return d

def ofValue (v : Toml.Value) : Except Fault KeyRow := do
  let (layout, d) ← form.read readMember {} v
  let digest ← form.require layout "fingerprint" d.digest
  let keyId ← form.require layout "api_key_id" d.keyId
  let organization ← form.require layout "organization_id" d.organization
  let perMinute ← form.require layout "requests_per_minute" d.perMinute
  let perDay ← form.require layout "requests_per_day" d.perDay
  return {
    digest
    record := { organization, keyId, quota := ⟨perMinute, perDay, d.burst⟩ }
    revoked := d.revoked
    expiresAt := d.expiresAt }

end KeyRow

namespace KeyFile

def ofValue (v : Toml.Value) : Except Fault (List KeyRow) := do
  let form : Toml.Record := { title := "struct KeyFile", names := ["keys"] }
  let (_, rows) ← form.read (fun member v rows =>
    if member == "keys" then return ← (← v.asItems).mapM KeyRow.ofValue else return rows) [] v
  return rows

/-- Reads the rows of a key file; a file without rows has none. -/
def parse (s : String) : Except Toml.ReadError (List KeyRow) := Toml.decode ofValue s

/-- The active keys of some rows; of several active rows for one key, the last counts. -/
def snapshot (rows : List KeyRow) (now : Timestamp) : Snapshot :=
  (rows.filter (·.isActive now)).foldl (fun m row => m.insert row.fingerprint row.record) ∅

/-- The active keys of the file at a path, from what reading it gave. -/
def fetchAll (path : String) (content : Except String String) (now : Timestamp) :
    Except DirectoryError Snapshot :=
  match content with
  | .error reason => .error (.transient ("failed to read " ++ path ++ ": " ++ reason))
  | .ok s =>
    match parse s with
    | .error e => .error (.permanent ("failed to parse " ++ path ++ ": " ++ e.message))
    | .ok rows => .ok (snapshot rows now)

def fetchOne (path : String) (content : Except String String) (now : Timestamp)
    (f : Fingerprint) : Except DirectoryError (Option Record) :=
  (fetchAll path content now).map (·[f]?)

end KeyFile

end TenantGateway.Tenant
