import BalancerClient.Client.UserAgent
import BalancerClient.Http.Url

/-!
# Connections

A connection is opened from the settings of a client.  It fails if the endpoint is no URL.

## Main definitions

* `BuilderError` - why no client could be made.
* `Connection` - an endpoint with credentials; `Connection.ofSettings` opens one.
* `Settings.checkScheme` - the check of a client that sends nothing.
-/

namespace BalancerClient

/-- Why no client could be made, with the text of what caused it. -/
inductive BuilderError where
  | endpoint (source : String)
  | transport (source : String)
  deriving DecidableEq, Repr

namespace BuilderError

/-- Whether the endpoint is at fault. -/
def isEndpoint : BuilderError → Bool
  | endpoint _ => true
  | transport _ => false

/-- Whether the transport is at fault. -/
def isTransport : BuilderError → Bool
  | endpoint _ => false
  | transport _ => true

/-- The text of what caused the error. -/
def source : BuilderError → String
  | endpoint source => source
  | transport source => source

/-- The error in words. -/
def message : BuilderError → String
  | endpoint _ => "invalid endpoint configuration"
  | transport _ => "could not initialize transport client"

end BuilderError

/-- An endpoint together with what every request to it carries. -/
structure Connection where
  endpoint : String
  userAgent : String
  credentials : Credentials

/-- Opens a connection. -/
def Connection.ofSettings (platform : Platform) (info : ServiceInfo) (env : Environment)
    (s : Settings) : Except BuilderError Connection :=
  let endpoint := s.resolveEndpoint env info
  match Url.parse endpoint with
  | .error fault => .error (.endpoint fault.message)
  | .ok _ =>
    .ok ⟨endpoint, BalancerClient.userAgent platform info, s.credentials.getD .anonymous⟩

/-- Whether a text holds the characters between a scheme and a host. -/
def hasSchemeMark : List Char → Bool
  | ':' :: '/' :: '/' :: _ => true
  | _ :: rest => hasSchemeMark rest
  | [] => false

/-- Refuses an endpoint without a scheme, as a client does that sends nothing. -/
def Settings.checkScheme (s : Settings) : Except BuilderError Unit :=
  match s.endpoint with
  | none => .ok ()
  | some url =>
    if hasSchemeMark url.toList then .ok ()
    else .error (.endpoint ("missing scheme in " ++ url))

end BalancerClient
