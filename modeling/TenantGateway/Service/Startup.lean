import TenantGateway.RateLimit.Counter
import TenantGateway.RateLimit.RemoteAddress
import TenantGateway.Settings.Basic
import TenantGateway.Settings.Error

/-!
What a gateway needs before it can serve: a directory, a counter store and a sink, which it takes up
in this order, telling the log of each, and then its ports.
-/

namespace TenantGateway

/-- Why a gateway does not start. -/
inductive StartError where
  | noServices
  | store (e : RateLimit.StoreError)
  /-- The sink needs a part that this build leaves out. -/
  | sinkLeftOut
  | portTaken
  deriving DecidableEq, Repr

namespace StartError

def message : StartError → String
  | .noServices => SettingsError.noServices.message
  | .store e => "Counter store error: " ++ e.message
  | .sinkLeftOut =>
    "Configuration error: usage sink 'kafka' requires building with the `kafka` feature"
  | .portTaken => "IO error: Address already in use (os error 98)"

end StartError

namespace Startup

/-- A part of the gateway as the log tells of it, with a detail where there is one. -/
structure Notice where
  text : String
  detail : Option (String × String)
  deriving DecidableEq, Repr

def directoryNotice : DirectoryChoice → Notice
  | .file path => { text := "tenant directory: key file", detail := some ("path", path) }
  | .memory => { text := "tenant directory: in-memory (empty until provisioned)", detail := none }

/-- Takes up the counter store. -/
def openStore : CounterChoice → Except StartError Notice
  | .memory =>
    .ok { text := "rate limit counters: in-memory (single instance only)", detail := none }
  | .remote url =>
    match RateLimit.RemoteAddress.check url with
    | .ok () =>
      let secured := "rediss://".toList.isPrefixOf url.toList
      .ok {
        text := "connected to redis counter store"
        detail := some ("tls", if secured then "true" else "false") }
    | .error e => .error (.store (.remote e.message))

/-- Takes up the sink. -/
def openSink : SinkChoice → Except StartError Unit
  | .kafka _ => .error .sinkLeftOut
  | .log => .ok ()

/-- Takes up directory, store and sink; gives the notices of those that are there, and the first
that is not. -/
def openParts (s : Settings) : List Notice × Except StartError Unit :=
  let first := directoryNotice s.directory
  match openStore s.rateLimit.store with
  | .error e => ([first], .error e)
  | .ok second => ([first, second], openSink s.usage.sink)

/-- Takes up all parts of a gateway that has something to serve. -/
def prepare (s : Settings) : List Notice × Except StartError Unit :=
  if s.services.isEmpty then ([], .error .noServices) else openParts s

/-- Starts a gateway: its parts come first, and its ports last. -/
def run (s : Settings) (portIsTaken : Bool) : Except StartError Unit := do
  (prepare s).2
  if portIsTaken then throw .portTaken

end Startup

end TenantGateway
