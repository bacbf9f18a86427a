import BalancerClient.Client.Response
import BalancerClient.Failure.Error
import BalancerClient.Failure.Payload
import BalancerClient.Http.Message
import BalancerClient.Message.Decode

/-!
# What replies mean

A reply of success holds the body of the response as JSON; only an empty reply without content
stands for the body with nothing in it.  Any other reply is a failure: one that the service
describes, if its body is an error payload, else one of the transport, which keeps the reply
as it came.

## Main definitions

* `BodyReader` - how a body is made from JSON.
* `BodyReader.materialize` - the response of a value.
* `HttpReply.failure`, `HttpReply.read` - the error and the response of a reply.
-/

namespace BalancerClient

/-- How the body of a response is made from JSON, and the body with nothing in it. -/
structure BodyReader (α : Type) where
  decode : Json → Except DecodeError α
  empty : α

/-- Bodies that are messages of a type. -/
def MessageType.reader (type : MessageType) : BodyReader (Message type) :=
  ⟨type.ofJson, type.unset⟩

/-- Bodies that are any JSON. -/
def Json.reader : BodyReader Json := ⟨.ok, .null⟩

/-- The response whose body a value holds. -/
def BodyReader.materialize {α : Type} (reader : BodyReader α) (parts : Parts) (v : Json) :
    Except Error (Response α) :=
  match reader.decode v with
  | .ok body => .ok ⟨parts, body⟩
  | .error error => .error (.deserialization (.mismatch error))

namespace HttpReply

/-- What a response keeps of a reply besides its body. -/
def parts (r : HttpReply) : Parts := ⟨r.status, r.headers⟩

/-- The error that a reply reports. -/
def failure (r : HttpReply) : Error :=
  match Status.ofPayload r.body with
  | .ok status => .service status (some r.status) (some r.headers)
  | .error _ => .http r.status r.headers r.body

/-- The response of a reply that reports success. -/
def success {α : Type} (reader : BodyReader α) (r : HttpReply) : Except Error (Response α) :=
  if r.body.isEmpty ∧ r.status = 204 then .ok ⟨r.parts, reader.empty⟩
  else
    match Json.parse r.body with
    | .ok v => reader.materialize r.parts v
    | .error fault => .error (.deserialization (.malformed fault))

/-- What a caller gets for a reply. -/
def read {α : Type} (reader : BodyReader α) (r : HttpReply) : Except Error (Response α) :=
  if r.isSuccess then r.success reader else .error r.failure

end HttpReply

end BalancerClient
