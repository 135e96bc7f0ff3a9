import TenantGateway.Metrics.Registry
import TenantGateway.Net.Message
import TenantGateway.Service.Health

/-!
The pages of the second port, on which the gateway is watched.
-/

namespace TenantGateway.Observation

open Net (Response)

/-- What a page tells. -/
inductive Page where
  | health (a : Health.Answer)
  | metrics
  | notFound

/-- The page at a path; the cache decides whether the gateway is ready. -/
def Page.ofPath (path : String) (c : Tenant.Cache) : Page :=
  match path with
  | "/health" => .health Health.healthy
  | "/ready" => .health (Health.ready c)
  | "/live" => .health Health.live
  | "/metrics" => .metrics
  | _ => .notFound

def Page.response (reports : List Measurement) : Page → Response
  | .health a => { status := a.status, headers := a.headers, body := a.body.render }
  | .metrics =>
    { status := 200
      headers := [("content-type", "text/plain; version=0.0.4")]
      body := String.join ((Metrics.Registry.initial.recordAll reports).lines.map (· ++ "\n")) }
  | .notFound => { status := 404, headers := [], body := "Not Found" }

end TenantGateway.Observation
