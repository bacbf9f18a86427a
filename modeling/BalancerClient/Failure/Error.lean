import BalancerClient.Failure.CredentialsError
import BalancerClient.Failure.Record
import BalancerClient.Http.Headers
import BalancerClient.Json.Parser
import BalancerClient.Validation.Violation

/-!
# Errors of a call

A call fails for one of eight reasons.  Most carry the error that caused them; an answer of
the service or of something in between carries the answer instead.

## Main definitions

* `Cause` - an underlying error, with its text.
* `Error` - why a call failed, with its kind, message and details.
-/

namespace BalancerClient

/-- An underlying error. -/
inductive Cause where
  /-- An error known by its text only. -/
  | text (message : String)
  /-- A request breaks its constraints. -/
  | violations (error : ValidationError)
  /-- A JSON text cannot be read. -/
  | malformed (fault : Json.Fault)
  /-- A JSON value does not fit what is read. -/
  | mismatch (error : DecodeError)
  /-- A provider of credentials failed. -/
  | credentials (error : CredentialsError)
  deriving BEq, Repr

/-- The cause in words. -/
def Cause.message : Cause → String
  | .text message => message
  | .violations error => error.message
  | .malformed .eof => "the JSON text ends too early"
  | .malformed .syntactic => "the text is not JSON"
  | .malformed .data => "the JSON text holds something else"
  | .mismatch error => error.message
  | .credentials error => error.message

/-- Why a call failed. -/
inductive Error where
  /-- The request breaks its constraints. -/
  | validation (cause : Cause)
  /-- The request cannot be written. -/
  | serialization (cause : Cause)
  /-- The reply cannot be read. -/
  | deserialization (cause : Cause)
  /-- No credentials were obtained. -/
  | authentication (error : CredentialsError)
  /-- There was no reply in time. -/
  | timeout (cause : Cause)
  /-- The exchange broke down. -/
  | io (cause : Cause)
  /-- The reply is a failure that the service did not describe. -/
  | http (status : Nat) (headers : Headers) (payload : Bytes)
  /-- The service described the failure. -/
  | service (status : Status) (httpStatus : Option Nat) (headers : Option Headers)
  deriving BEq, Repr

namespace Error

/-- The kinds of errors. -/
inductive Kind where
  | validation
  | serialization
  | deserialization
  | authentication
  | timeout
  | io
  | transport
  | service
  deriving DecidableEq, Repr

/-- The kind of an error. -/
def kind : Error → Kind
  | .validation _ => .validation
  | .serialization _ => .serialization
  | .deserialization _ => .deserialization
  | .authentication _ => .authentication
  | .timeout _ => .timeout
  | .io _ => .io
  | .http .. => .transport
  | .service .. => .service

/-! ## Predicates -/

/-- Whether the request broke its constraints. -/
def isValidation (e : Error) : Bool := e.kind == .validation

/-- Whether the request could not be written. -/
def isSerialization (e : Error) : Bool := e.kind == .serialization

/-- Whether the reply could not be read. -/
def isDeserialization (e : Error) : Bool := e.kind == .deserialization

/-- Whether no credentials were obtained. -/
def isAuthentication (e : Error) : Bool := e.kind == .authentication

/-- Whether there was no reply in time. -/
def isTimeout (e : Error) : Bool := e.kind == .timeout

/-- Whether the exchange broke down. -/
def isIo (e : Error) : Bool := e.kind == .io

/-- Whether the transport failed, without a reply or with one that the service did not
describe. -/
def isTransport (e : Error) : Bool := e.kind == .io || e.kind == .transport

/-! ## Details -/

/-- The service's description of the failure. -/
def status? : Error → Option Status
  | .service status _ _ => some status
  | _ => none

/-- The status code of the reply. -/
def httpStatus? : Error → Option Nat
  | .http status _ _ => some status
  | .service _ status _ => status
  | _ => none

/-- The header fields of the reply. -/
def httpHeaders? : Error → Option Headers
  | .http _ headers _ => some headers
  | .service _ _ headers => headers
  | _ => none

/-- The payload of a reply that the service did not describe. -/
def httpPayload? : Error → Option Bytes
  | .http _ _ payload => some payload
  | _ => none

/-- The error that caused this one. -/
def cause? : Error → Option Cause
  | .validation cause | .serialization cause | .deserialization cause | .timeout cause
  | .io cause =>
    some cause
  | .authentication error => some (.credentials error)
  | .http .. | .service .. => none

/-- The violations that a request was refused for. -/
def violations? (e : Error) : Option (List Violation) :=
  match e with
  | .validation (.violations error) => some error.violations
  | _ => none

/-- A payload in a message: its text, or its octets if it is no text. -/
def payloadText (payload : Bytes) : String :=
  (Utf8.decode? payload).getD (Text.quotedBytes payload)

/-- The error in words. -/
def message : Error → String
  | .validation cause => "the request is not valid: " ++ cause.message
  | .serialization cause => "cannot serialize the request " ++ cause.message
  | .deserialization cause => "cannot deserialize the response " ++ cause.message
  | .authentication error => "cannot create the authentication headers " ++ error.message
  | .timeout cause => "the request exceeded the request deadline " ++ cause.message
  | .io cause => "the transport reports an error: " ++ cause.message
  | .http status _ payload =>
    "the HTTP transport reports a [" ++ toString status ++ "] error: " ++ payloadText payload
  | .service status _ _ =>
    "the service reports an error with code " ++ status.code ++ " described as: " ++
      status.message

end Error

end BalancerClient
