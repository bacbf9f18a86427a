/-!
# Operation descriptors

A descriptor says how the requests of an operation are shaped and sent.

## Main definitions

* `Method`, `BodyType`, `Location` - how a request is sent, and where its parameters go.
* `Descriptor` - the description; `Descriptor.rpc` is the usual one of an action.
-/

namespace BalancerClient

/-- The method of a request. -/
inductive Method where
  | get
  | post
  | put
  | delete
  deriving DecidableEq, Repr

/-- The name of a method. -/
def Method.name : Method → String
  | .get => "GET"
  | .post => "POST"
  | .put => "PUT"
  | .delete => "DELETE"

/-- The methods. -/
def Method.all : List Method := [.get, .post, .put, .delete]

/-- The method of a name. -/
def Method.ofName? (name : String) : Option Method := Method.all.find? (·.name == name)

/-- How the parameters in a body are written. -/
inductive BodyType where
  | formData
  | json
  deriving DecidableEq, Repr

/-- The name of a body type. -/
def BodyType.name : BodyType → String
  | .formData => "FormData"
  | .json => "Json"

/-- The body type of a name. -/
def BodyType.ofName? (name : String) : Option BodyType :=
  [BodyType.formData, .json].find? (·.name == name)

/-- Where the parameters of a request go. -/
inductive Location where
  | query
  | body
  deriving DecidableEq, Repr

/-- The name of a location. -/
def Location.name : Location → String
  | .query => "Query"
  | .body => "Body"

/-- How the requests of an operation are shaped and sent. -/
structure Descriptor where
  action : String
  version : String
  protocol : String
  method : Method
  pathname : String
  authType : String
  style : String
  reqBodyType : BodyType
  bodyType : String
  location : Location
  /-- The fields that are sent as one parameter each. -/
  packed : List String
  deriving DecidableEq, Repr

namespace Descriptor

/-- The descriptor of an action with the usual settings: the parameters of a `GET` go into the
query, those of any other method into the body. -/
def rpc (action version : String) (method : Method) : Descriptor where
  action
  version
  protocol := "HTTPS"
  method
  pathname := "/"
  authType := "AK"
  style := "RPC"
  reqBodyType := .formData
  bodyType := "json"
  location := if method = .get then .query else .body
  packed := []

/-- Whether a field is sent as one parameter. -/
def isPacked (d : Descriptor) (field : String) : Bool := d.packed.contains field

end Descriptor

end BalancerClient
