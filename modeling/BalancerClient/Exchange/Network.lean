import BalancerClient.Exchange.Attempt
import BalancerClient.Exchange.Reply

/-!
# Exchanges over a network

A network takes a request to a server and brings back what comes of it: a reply, nothing in
time, or a breakdown.  The server works through a script, one entry for each request that
arrives, and then replies with an empty object; a network without a server delivers nothing.

A reply may point elsewhere.  The transport then sends a further request, which it makes of
the last one and of the reply, and so on until a reply points nowhere, up to ten times; only
what comes of the last request gets to the caller.

## Main definitions

* `Delivery` - what comes of a request.
* `Network` - the script, the requests that have arrived, and how the transport goes on.
* `Network.serve`, `Network.deliver` - take one request there, and with it those that it leads
  to.
* `Attempt.perform` - carries out an attempt.
-/

namespace BalancerClient

/-- What comes of a request. -/
inductive Delivery where
  | reply (reply : HttpReply)
  /-- There is no complete reply in time. -/
  | late
  /-- The exchange breaks down. -/
  | broken
  deriving DecidableEq

/-! ## Replies that point elsewhere -/

namespace HttpReply

/-- A reply that holds an empty object. -/
def plain : HttpReply := { body := [0x7b, 0x7d] }

/-- A reply as it travels: without content and without changes there is no body. -/
def travelling (r : HttpReply) : HttpReply :=
  if r.status = 204 ∨ r.status = 304 then { r with body := [] } else r

/-- Whether a reply asks for another request: its code says so, and it names a place. -/
def pointsElsewhere (r : HttpReply) : Bool :=
  [301, 302, 303, 307, 308].contains r.status && r.headers.has "location"

end HttpReply

/-- The header fields that describe a body. -/
def bodyFields : List String :=
  ["content-type", "content-length", "content-encoding", "transfer-encoding"]

/-- The request that a reply leads to when it names a place on the same host by a path from
the root.  The method and the body are kept only if the code says so.  That the further
request also names the URL of the one before is left out. -/
def HttpRequest.next? (r : HttpRequest) (reply : HttpReply) : Option HttpRequest := do
  let place ← reply.headers.value? "location"
  let url ← (Url.parse ("http://host" ++ place)).toOption
  if place.toList.head? ≠ some '/' ∨ place.toList[1]?.any Url.isSlash then none
  else
    let target := String.ofList (url.targetText [])
    if [307, 308].contains reply.status then some { r with target }
    else
      let fields := r.headers.fields.filter fun (name, _) => !bodyFields.contains name
      some { method := .get, target, headers := ⟨fields⟩, body := [] }

/-- The request that a delivery leads to, when the transport makes requests so of the last one
and a reply that points elsewhere. -/
def Delivery.onward? (next? : HttpRequest → HttpReply → Option HttpRequest)
    (request : HttpRequest) : Delivery → Option HttpRequest
  | reply r => if r.pointsElsewhere then next? request r else none
  | _ => none

/-! ## Networks -/

/-- A network. -/
structure Network where
  reachable : Bool
  /-- What comes of the requests that will arrive. -/
  script : List Delivery := []
  /-- The requests that have arrived. -/
  received : List HttpRequest := []
  /-- The request that the transport makes of the last one and a reply that points elsewhere;
  if there is none, the reply is handed over. -/
  next? : HttpRequest → HttpReply → Option HttpRequest := HttpRequest.next?

namespace Network

/-- A network without a server. -/
def unreachable : Network := { reachable := false }

/-- A network with a server that works through a script. -/
def serving (script : List Delivery) : Network := { reachable := true, script }

/-- Takes one request to the server. -/
def serve (n : Network) (r : HttpRequest) : Delivery × Network :=
  if n.reachable then
    (n.script.headD (.reply .plain),
      { n with script := n.script.tail, received := n.received ++ [r] })
  else (.broken, n)

/-- Takes a request to the server, and then those that the replies lead to, so many at most;
if there would be more, the exchange breaks down. -/
def follow (n : Network) (r : HttpRequest) : Nat → Delivery × Network
  | 0 =>
    let (delivery, n) := n.serve r
    if (delivery.onward? n.next? r).isSome then (.broken, n) else (delivery, n)
  | more + 1 =>
    let (delivery, n) := n.serve r
    match delivery.onward? n.next? r with
    | none => (delivery, n)
    | some next => n.follow next more

/-- The greatest number of requests that a request leads to. -/
def maxOnward : Nat := 10

/-- Takes a request to the server, and then those that the replies lead to. -/
def deliver (n : Network) (r : HttpRequest) : Delivery × Network := n.follow r maxOnward

end Network

/-- What a caller gets for a delivery. -/
def Delivery.read {α : Type} (reader : BodyReader α) : Delivery → Except Error (Response α)
  | reply r => r.read reader
  | late => .error (.timeout (.text "there is no reply in time"))
  | broken => .error (.io (.text "the exchange broke down"))

/-- The failure of a request whose URL the transport does not take. -/
def Error.untakenUrl : Error := .io (.text "the transport does not take the URL")

/-- Carries out an attempt: what the caller gets, and the network afterwards. -/
def Attempt.perform {α : Type} (reader : BodyReader α) (a : Attempt) (n : Network) :
    Except Error (Response α) × Network :=
  match a with
  | refused error => (.error error, n)
  | unauthorised _ error => (.error (.authentication error), n)
  | ready _ _ none => (.error .untakenUrl, n)
  | ready _ _ (some request) =>
    let (delivery, n) := n.deliver request
    (delivery.read reader, n)

end BalancerClient
