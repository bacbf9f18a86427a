import BalancerClient.Client.Signing

/-!
# Settings of a client

A client is set up step by step: an endpoint, a region, credentials, tracing.  An endpoint
that is set counts before everything else; without one the endpoint is that of a region, which
is the one that is set, or the one in the environment, or the default of the service.

## Main definitions

* `ServiceInfo`, `Environment` - what a service and the surroundings of the program
  contribute.
* `Settings` - the settings, `Settings.apply` - one step.
* `Settings.resolveEndpoint`, `Settings.isTraced` - what follows from them.
-/

namespace BalancerClient

/-- What distinguishes a service. -/
structure ServiceInfo where
  /-- The label of the service in the names of its hosts. -/
  product : String
  /-- The region that is used when none is chosen. -/
  defaultRegion : String
  /-- The version of the client. -/
  clientVersion : String
  deriving DecidableEq, Repr

/-- The load balancer service. -/
def ServiceInfo.loadBalancer : ServiceInfo := ⟨"nlb", "cn-hangzhou", "0.1.0"⟩

/-- The variables that a client looks at.  One that holds no text counts as unset. -/
structure Environment where
  region : Option String := none
  logging : Option String := none
  deriving DecidableEq, Repr, Inhabited

/-- The settings of a client. -/
structure Settings where
  endpoint : Option String := none
  region : Option String := none
  credentials : Option Credentials := none
  tracing : Bool := false

namespace Settings

/-- A step of the set-up. -/
inductive Step where
  | endpoint (url : String)
  | region (name : String)
  | credentials (provider : Credentials)
  | tracing

/-- The settings after a step. -/
def apply (s : Settings) : Step → Settings
  | .endpoint url => { s with endpoint := some url }
  | .region name => { s with region := some name }
  | .credentials provider => { s with credentials := some provider }
  | .tracing => { s with tracing := true }

/-- A text without the slashes at its end. -/
def trimSlashes (s : String) : String :=
  String.ofList (s.toList.reverse.dropWhile (· == '/')).reverse

/-- The region that is used when no endpoint is set. -/
def effectiveRegion (s : Settings) (env : Environment) (info : ServiceInfo) : String :=
  (s.region.or (env.region.filter (· ≠ ""))).getD info.defaultRegion

/-- The endpoint of a service in a region. -/
def regionalEndpoint (info : ServiceInfo) (region : String) : String :=
  "https://" ++ info.product ++ "." ++ region ++ ".aliyuncs.com"

/-- The endpoint that a client sends its requests to. -/
def resolveEndpoint (s : Settings) (env : Environment) (info : ServiceInfo) : String :=
  match s.endpoint with
  | some url => trimSlashes url
  | none => regionalEndpoint info (s.effectiveRegion env info)

/-- Whether a client reports what it does. -/
def isTraced (s : Settings) (env : Environment) : Bool :=
  s.tracing || env.logging == some "true"

end Settings

end BalancerClient
