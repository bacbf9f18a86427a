import BalancerClient.Client.Connection
import BalancerClient.Client.Options
import BalancerClient.Http.Message
import BalancerClient.Json.Printer
import BalancerClient.Request.Wire
import BalancerClient.Validation.Check

/-!
# Preparing a request

Before anything is sent, a request is checked, brought into wire form, given its header fields
and signed, in this order; the first of these that fails decides the error.  The provider of
credentials is asked only if everything before has gone well, and its header fields replace
those of the same name.

## Main definitions

* `Stamp` - the date and the nonce of a request.
* `Connection.libraryHeaders` - the header fields that are signed.
* `Connection.httpRequest?` - the request that goes out.
* `Attempt` - how far the preparations get; `Connection.prepare` makes them.
-/

namespace BalancerClient

/-- What makes a request unique: when it is made, and a nonce. -/
structure Stamp where
  date : String
  nonce : String
  isHeaderValue_date : isHeaderValue date = true
  isHeaderValue_nonce : isHeaderValue nonce = true

/-- The media type of a body. -/
def BodyType.mediaType : BodyType → String
  | .formData => "application/x-www-form-urlencoded"
  | .json => "application/json"

/-- Parameters as a body. -/
def BodyType.encode : BodyType → Parameters → Bytes
  | .formData, p => Utf8.encode (Form.encode p.entries)
  | .json, p =>
    Utf8.encode (Json.compact (.obj (p.entries.map fun (name, text) => (name, .str text))))

/-- How far the preparations of a request get. -/
inductive Attempt where
  /-- They fail before the credentials are asked for. -/
  | refused (error : Error)
  /-- There are no credentials for what is to be signed. -/
  | unauthorised (signing : SigningRequest) (error : CredentialsError)
  /-- The request is signed; it can be sent if the transport takes its URL. -/
  | ready (wire : WireRequest) (signing : SigningRequest) (request : Option HttpRequest)

namespace Connection

/-- The user agent of a call. -/
def userAgentOf (c : Connection) (o : RequestOptions) : String :=
  match o.userAgent with
  | none => c.userAgent
  | some text => c.userAgent ++ " " ++ text

/-- The names and values of the header fields that are signed. -/
def libraryFields (c : Connection) (stamp : Stamp) (d : Descriptor) (o : RequestOptions) :
    List (String × String) := [
  ("x-acs-action", d.action),
  ("x-acs-version", d.version),
  ("x-acs-signature-nonce", stamp.nonce),
  ("x-acs-date", stamp.date),
  ("accept", "application/json"),
  ("user-agent", c.userAgentOf o)]

/-- The header fields that are signed, if every value may be one. -/
def libraryHeaders (c : Connection) (stamp : Stamp) (d : Descriptor) (o : RequestOptions) :
    Except Error Headers :=
  let fields := c.libraryFields stamp d o
  if fields.all fun (_, value) => isHeaderValue value then .ok ⟨fields⟩
  else .error (.serialization (.text invalidHeaderValue))

/-- What a provider of credentials sees of a request. -/
def signing (w : WireRequest) (headers : Headers) : SigningRequest where
  method := w.descriptor.method
  pathname := w.descriptor.pathname
  headers
  query := w.query
  body := w.body

/-- The header fields of a request with a body say what it is, unless they do so already. -/
def describeBody (type : BodyType) (headers : Headers) : Headers :=
  if headers.has "content-type" then headers else headers.append "content-type" type.mediaType

/-- The request that goes out with the given header fields.  A user that the URL names is put
into a header field first, so that another value for it counts. -/
def httpRequest? (c : Connection) (w : WireRequest) (headers : Headers) :
    Option HttpRequest := do
  let url ← (Url.parse (c.endpoint ++ w.descriptor.pathname)).toOption
  let target ← url.target? w.query.entries
  let headers := url.userFields.override headers
  let type := w.descriptor.reqBodyType
  return if w.body.isEmpty then ⟨w.descriptor.method, target, headers, []⟩
    else ⟨w.descriptor.method, target, describeBody type headers, type.encode w.body⟩

/-- Signs a request in wire form. -/
def sign (c : Connection) (stamp : Stamp) (w : WireRequest) (o : RequestOptions) : Attempt :=
  match c.libraryHeaders stamp w.descriptor o with
  | .error error => .refused error
  | .ok headers =>
    match c.credentials.headers (signing w headers) with
    | .error error => .unauthorised (signing w headers) error
    | .ok fields => .ready w (signing w headers) (c.httpRequest? w (headers.override fields))

/-- Makes all preparations for a request. -/
def prepare (c : Connection) (stamp : Stamp) (d : Descriptor) (checks : List Check)
    (request : Json) (o : RequestOptions) : Attempt :=
  match Check.validate checks with
  | .error error => .refused (.validation (.violations error))
  | .ok () =>
    match WireRequest.assemble d request with
    | .error error => .refused error
    | .ok w => c.sign stamp w o

end Connection

namespace Attempt

/-- What the provider of credentials has been shown. -/
def signed : Attempt → List SigningRequest
  | refused _ => []
  | unauthorised signing _ => [signing]
  | ready _ signing _ => [signing]

end Attempt

end BalancerClient
