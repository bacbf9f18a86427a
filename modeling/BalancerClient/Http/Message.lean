import BalancerClient.Http.Headers
import BalancerClient.Http.Written
import BalancerClient.Operation.Descriptor

/-!
# Requests and replies

What travels between a client and the host: a request with its target, the path and the query,
and a reply with its status code; both have header fields and a body.

## Main definitions

* `HttpRequest`, `HttpReply` - a request and a reply.
* `Url.target?` - the target of a request for a URL with further parameters.
* `Url.userFields` - the header field for the user that a URL names.
-/

namespace BalancerClient

/-- A request. -/
structure HttpRequest where
  method : Method
  target : String
  headers : Headers
  body : Bytes
  deriving DecidableEq

/-- A reply. -/
structure HttpReply where
  status : Nat := 200
  headers : Headers := {}
  body : Bytes := []
  deriving DecidableEq

/-- Whether the status code of a reply has three digits. -/
def HttpReply.isValid (r : HttpReply) : Bool := 100 ≤ r.status && r.status < 1000

/-- Whether the status code of a reply reports success. -/
def HttpReply.isSuccess (r : HttpReply) : Bool := 200 ≤ r.status && r.status < 300

/-- The target of a request for a URL with parameters added to it, if the transport takes the
URL. -/
def Url.target? (u : Url) (pairs : List (String × String)) : Option String :=
  if u.isTaken pairs then some (String.ofList (u.targetText pairs)) else none

/-- The header field for the name and the password of a URL. -/
def Url.userFields (u : Url) : Headers :=
  ⟨u.basic?.toList.map fun value => ("authorization", value)⟩

end BalancerClient
