import BalancerClient.Failure.CredentialsError
import BalancerClient.Http.Headers
import BalancerClient.Operation.Descriptor
import BalancerClient.Request.Parameters

/-!
# Signing requests

Before a request is sent, a provider of credentials sees what it will hold and answers with
the header fields that authenticate it.

## Main definitions

* `SigningRequest` - what a provider sees.
* `Credentials` - a provider; `Credentials.anonymous` is the one without header fields.
-/

namespace BalancerClient

/-- What a provider of credentials sees of a request. -/
structure SigningRequest where
  method : Method
  pathname : String
  headers : Headers := {}
  query : Parameters := {}
  body : Parameters := {}
  deriving DecidableEq

namespace SigningRequest

/-- A setting of one part of the request. -/
inductive Step where
  | headers (fields : Headers)
  | query (parameters : Parameters)
  | body (parameters : Parameters)

/-- The request after a setting. -/
def apply (r : SigningRequest) : Step → SigningRequest
  | .headers fields => { r with headers := fields }
  | .query parameters => { r with query := parameters }
  | .body parameters => { r with body := parameters }

end SigningRequest

/-- A provider of credentials: the header fields that authenticate a request. -/
structure Credentials where
  headers : SigningRequest → Except CredentialsError Headers

namespace Credentials

/-- No header fields for any request. -/
def anonymous : Credentials := ⟨fun _ => .ok {}⟩

/-- The same header fields for every request. -/
def fixed (fields : Headers) : Credentials := ⟨fun _ => .ok fields⟩

/-- The same failure for every request. -/
def failing (error : CredentialsError) : Credentials := ⟨fun _ => .error error⟩

/-- The action of a request and the names of its parameters, those of the body first. -/
def namesText (r : SigningRequest) : String :=
  (r.headers.value? "x-acs-action").getD "" ++ ":" ++ ",".intercalate r.body.names ++ ":" ++
    ",".intercalate r.query.names

/-- One header field that names the action and the parameters. -/
def naming : Credentials where
  headers r :=
    if isHeaderValue (namesText r) then .ok ⟨[("authorization", namesText r)]⟩
    else .error ⟨false, .causedBy invalidHeaderValue⟩

end Credentials

end BalancerClient
