import BalancerClient.Http.Message
import BalancerClient.Failure.Status
import BalancerClient.Json.Parser
import BalancerClient.Request.Parameters

/-!
# The echo server

A server for trials answers a request at its root with an account of the request.  Some
actions get another reply: an error payload, a failure of a proxy, or no content.  A request
with a long body is turned away before anything else in it is read.

## Main definitions

* `EchoServer.reply` - the reply to a request.
* `EchoServer.account` - the account of a request.
-/

namespace BalancerClient.EchoServer

/-- The error payload of the action that always fails. -/
def refusal : Json := .obj [
  ("RequestId", .str "echo-error-request-id"),
  ("HostId", .str "127.0.0.1"),
  ("Code", .str "IncorrectStatus.loadBalancer"),
  ("Message", .str "this action always returns an error"),
  ("Recommend", .str "https://api.aliyun.com/troubleshoot?q=IncorrectStatus.loadBalancer")]

/-- The payload of the action that always fails, as a client reads it. -/
def refusalStatus : Status where
  code := "IncorrectStatus.loadBalancer"
  message := "this action always returns an error"
  requestId := some "echo-error-request-id"
  hostId := some "127.0.0.1"
  recommend := some "https://api.aliyun.com/troubleshoot?q=IncorrectStatus.loadBalancer"

/-- Whether a text has visible ASCII characters, blanks and tabs only. -/
def isVisible (s : String) : Bool :=
  s.toList.all fun c => (32 ≤ c.toNat && c.toNat < 127) || c == '\t'

/-- The first value of a header field, if it is visible. -/
def visible? (h : Headers) (name : String) : Option String := (h.value? name).filter isVisible

/-- The name that the second and further values of a header field are accounted under. -/
def furtherName : String := "__status__"

/-- The values of one header field in the account. -/
def accountField (h : Headers) (members : List (String × Json)) (name : String) :
    List (String × Json) :=
  match h.values name with
  | [] => members
  | first :: further =>
    further.foldl (fun ms v => putMember furtherName (.str v) ms)
      (putMember name (.str first) members)

/-- The header fields in the account, if all values are visible. -/
def accountHeaders? (h : Headers) : Option Json :=
  if h.fields.all fun (_, value) => isVisible value then
    some (.obj (h.names.foldl (accountField h) []))
  else none

/-- Pairs in the account; of two with one name the later stays. -/
def accountPairs (pairs : List (String × String)) : Json :=
  .obj (pairs.foldl (fun ms (name, text) => putMember name (.str text) ms) [])

/-- The greatest number of octets in a body that the server takes. -/
def maxBody : Nat := 2097152

/-- The body in the account, unless it is too long: JSON, if the request says so and it can be
read, else a form. -/
def accountBody? (r : HttpRequest) : Option Json :=
  if maxBody < r.body.length then none
  else if r.body.isEmpty then some (.obj [])
  else if "application/json".toList.isPrefixOf
    ((visible? r.headers "content-type").getD "").toList then
    (Json.parse r.body).toOption
  else some (accountPairs (Form.decode (Form.ofOctets r.body)))

/-- The query of a target. -/
def queryText (target : String) : String :=
  String.ofList ((target.toList.dropWhile (· != '?')).drop 1)

/-- The account of a request, if all of it can be read. -/
def account? (r : HttpRequest) : Option Json := do
  let query := Form.decode (queryText r.target).toList
  let body ← accountBody? r
  let headers ← accountHeaders? r.headers
  return .obj [
    ("RequestId", .optional (visible? r.headers "x-acs-signature-nonce")),
    ("Method", .str r.method.name),
    ("Headers", headers),
    ("Query", .obj ((Parameters.ofList query).entries.map fun (name, text) =>
      (name, .str text))),
    ("Body", body)]

/-- A reply with a text. -/
def textReply (status : Nat) (text : String) : HttpReply :=
  { status, body := Utf8.encode text }

/-- The reply to a request that can be read. -/
def replyTo (r : HttpRequest) : HttpReply :=
  match (visible? r.headers "x-acs-action").getD "" with
  | "Error" => textReply 400 refusal.compact
  | "Proxy" => textReply 502 "<html>bad gateway</html>"
  | "NoContent" => textReply 204 ""
  | _ =>
    match account? r with
    | some account => textReply 200 account.compact
    | none => textReply 500 "the request cannot be read"

/-- The reply to a request: there is nothing but the root. -/
def reply (r : HttpRequest) : HttpReply :=
  if r.target.toList.takeWhile (· != '?') ≠ ['/'] then { status := 404 }
  else if maxBody < r.body.length then
    textReply 413 "Failed to buffer the request body: length limit exceeded"
  else if (accountBody? r).isNone then textReply 500 "the body cannot be read"
  else replyTo r

end BalancerClient.EchoServer
