/-!
What the gateway's components report about their work, one value for each thing that happened.
-/

namespace TenantGateway

/-- One observation. Durations are in seconds. -/
inductive Measurement where
  | request (method : String) (status : UInt16) (service : String) (seconds : Float)
  | error (kind : String)
  | authFailure (reason : String)
  | cacheLookup (result : String)
  | cacheRefresh (result : String) (entries : Option UInt64)
  | rateLimit (result : String) (limit : Option String)
  | rateLimitDuration (seconds : Float)
  | backendRequest (service : String) (status : UInt16) (seconds : Float)
  | backendError (service kind : String)
  | usageEvents (result : String) (count : UInt64)
  | usageBatch
  deriving Repr

end TenantGateway
