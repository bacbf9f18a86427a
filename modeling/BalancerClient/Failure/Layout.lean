import BalancerClient.Failure.Error

/-!
# The parts of an error

An error is kept in parts: its kind, what is known of a reply or said by the service, and the
error that caused it.  Every part but the kind may be missing on its own, so there are more
combinations of parts than errors.  The words of an error are put together from its parts, and
some combinations have none: a mistake of the program, not a failed call.

## Main definitions

* `Error.Layout` - the parts of an error, with the predicates and the details that they
  answer.
* `Error.Layout.display` - the parts in words; `Error.Lack` is what can be missing for them.
* `Error.Origin` - the ways to make an error, with the parts and the error made.
-/

namespace BalancerClient.Error

/-- What is known of a reply that the service did not describe. -/
structure TransportDetails where
  httpStatus : Option Nat := none
  headers : Option Headers := none
  payload : Option Bytes := none
  deriving BEq, Repr

/-- What the service says of a failure, and what is known of its reply. -/
structure ServiceDetails where
  httpStatus : Option Nat := none
  headers : Option Headers := none
  status : Status
  deriving BEq, Repr

namespace Layout

/-- The kind of an error, with the details that belong to it. -/
inductive Kind where
  | validation
  | serialization
  | deserialization
  | authentication
  | timeout
  | transport (details : TransportDetails)
  | service (details : ServiceDetails)
  deriving BEq, Repr

end Layout

/-- The parts of an error. -/
structure Layout where
  kind : Layout.Kind
  source : Option Cause
  deriving BEq, Repr

/-- What can be missing for the words of an error. -/
inductive Lack where
  /-- The kind says nothing without a cause. -/
  | cause
  /-- There is neither a cause nor a reply with its code and payload. -/
  | reply
  deriving DecidableEq, Repr

/-- The mistake in words. -/
def Lack.message : Lack → String
  | .cause => "internal error: entered unreachable code: no constructor allows this"
  | .reply => "internal error: entered unreachable code: no Error constructor allows this"

/-- A failure of the transport in words: the reply if its code and its payload are known, else
the cause. -/
def TransportDetails.display (details : TransportDetails) (source : Option Cause) :
    Except Lack String :=
  match source, details.httpStatus, details.payload with
  | _, some status, some payload =>
    .ok ("the HTTP transport reports a [" ++ toString status ++ "] error: " ++
      payloadText payload)
  | some cause, _, _ => .ok ("the transport reports an error: " ++ cause.message)
  | none, _, _ => .error .reply

namespace Layout

/-! ## Predicates -/

/-- Whether the request broke its constraints. -/
def isValidation (l : Layout) : Bool := l.kind matches .validation

/-- Whether the request could not be written. -/
def isSerialization (l : Layout) : Bool := l.kind matches .serialization

/-- Whether the reply could not be read. -/
def isDeserialization (l : Layout) : Bool := l.kind matches .deserialization

/-- Whether no credentials were obtained. -/
def isAuthentication (l : Layout) : Bool := l.kind matches .authentication

/-- Whether there was no reply in time. -/
def isTimeout (l : Layout) : Bool := l.kind matches .timeout

/-- Whether the exchange broke down, which is told by nothing being known of a reply. -/
def isIo (l : Layout) : Bool := l.kind matches .transport ⟨none, none, none⟩

/-- Whether the transport failed. -/
def isTransport (l : Layout) : Bool := l.kind matches .transport _

/-! ## Details -/

/-- The service's description of the failure. -/
def status? (l : Layout) : Option Status :=
  match l.kind with
  | .service details => some details.status
  | _ => none

/-- The status code of the reply. -/
def httpStatus? (l : Layout) : Option Nat :=
  match l.kind with
  | .transport details => details.httpStatus
  | .service details => details.httpStatus
  | _ => none

/-- The header fields of the reply. -/
def httpHeaders? (l : Layout) : Option Headers :=
  match l.kind with
  | .transport details => details.headers
  | .service details => details.headers
  | _ => none

/-- The payload of a reply that the service did not describe. -/
def httpPayload? (l : Layout) : Option Bytes :=
  match l.kind with
  | .transport details => details.payload
  | _ => none

/-- The error in words. -/
def display (l : Layout) : Except Lack String :=
  match l.kind, l.source with
  | .validation, some cause => .ok ("the request is not valid: " ++ cause.message)
  | .serialization, some cause => .ok ("cannot serialize the request " ++ cause.message)
  | .deserialization, some cause => .ok ("cannot deserialize the response " ++ cause.message)
  | .authentication, some cause =>
    .ok ("cannot create the authentication headers " ++ cause.message)
  | .timeout, some cause =>
    .ok ("the request exceeded the request deadline " ++ cause.message)
  | .transport details, source => details.display source
  | .service details, _ =>
    .ok ("the service reports an error with code " ++ details.status.code ++
      " described as: " ++ details.status.message)
  | _, none => .error .cause

end Layout

/-! ## Making errors -/

/-- The ways to make an error, with what it is made from. -/
inductive Origin where
  | service (status : Status)
  | serviceWithMetadata (status : Status) (httpStatus : Option Nat) (headers : Option Headers)
  | timeout (cause : Cause)
  | validation (cause : Cause)
  | deserialization (cause : Cause)
  | serialization (cause : Cause)
  | authentication (error : CredentialsError)
  | http (httpStatus : Nat) (headers : Headers) (payload : Bytes)
  | io (cause : Cause)
  deriving BEq, Repr

/-- The parts of the error that is made. -/
def Origin.layout : Origin → Layout
  | .service status => ⟨.service { status }, none⟩
  | .serviceWithMetadata status httpStatus headers =>
    ⟨.service { httpStatus, headers, status }, none⟩
  | .timeout cause => ⟨.timeout, some cause⟩
  | .validation cause => ⟨.validation, some cause⟩
  | .deserialization cause => ⟨.deserialization, some cause⟩
  | .serialization cause => ⟨.serialization, some cause⟩
  | .authentication error => ⟨.authentication, some (.credentials error)⟩
  | .http httpStatus headers payload =>
    ⟨.transport ⟨some httpStatus, some headers, some payload⟩, none⟩
  | .io cause => ⟨.transport {}, some cause⟩

/-- The error that is made. -/
def Origin.error : Origin → Error
  | .service status => .service status none none
  | .serviceWithMetadata status httpStatus headers => .service status httpStatus headers
  | .timeout cause => .timeout cause
  | .validation cause => .validation cause
  | .deserialization cause => .deserialization cause
  | .serialization cause => .serialization cause
  | .authentication error => .authentication error
  | .http httpStatus headers payload => .http httpStatus headers payload
  | .io cause => .io cause

end BalancerClient.Error
