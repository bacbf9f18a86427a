import BalancerClient.Failure.Error
import BalancerClient.Operation.Descriptor
import BalancerClient.Request.Flatten

/-!
# Requests in wire form

The wire form of a request is its parameters, all of them in the query or all of them in the
body.  The scalar members of the request are parameters as they are.  An array or an object
becomes one parameter, its compact JSON text, if the descriptor says so, else one parameter
for each scalar inside it.

## Main definitions

* `Json.pack` - a value as one parameter.
* `WireRequest` - a request in wire form; `WireRequest.assemble` shapes one.
-/

namespace BalancerClient

/-- A value as the one parameter of a name; null gives none. -/
def Json.pack (name : String) (v : Json) : Option (String × String) :=
  if v.isNull then none else some (name, v.compact)

/-- A request in wire form. -/
structure WireRequest where
  descriptor : Descriptor
  query : Parameters
  body : Parameters
  deriving DecidableEq

namespace WireRequest

/-- All parameters, wherever they go. -/
def parameters (w : WireRequest) : Parameters := w.query.insertAll w.body.entries

/-- Sets the parameters of a field that holds an array or an object. -/
def setField (d : Descriptor) (name : String) (v : Json) (p : Parameters) : Parameters :=
  if d.isPacked name then p.insertAll (v.pack name).toList else v.flatten name p

/-- The parameters of the members of a request. -/
def shape (d : Descriptor) (members : List (String × Json)) : Parameters :=
  let parts := partition members
  parts.structured.foldl (fun p (name, v) => setField d name v p) parts.simple

/-- What is wrong with a request that is not an object. -/
def notAnObject (d : Descriptor) (v : Json) : Error :=
  .serialization (.text ("the request for " ++ d.action ++
    " is not an object: " ++ v.compact))

/-- Puts parameters where the descriptor says. -/
def place (d : Descriptor) (p : Parameters) : WireRequest :=
  match d.location with
  | .query => ⟨d, p, {}⟩
  | .body => ⟨d, {}, p⟩

/-- The wire form of a request, which must be an object. -/
def assemble (d : Descriptor) : Json → Except Error WireRequest
  | .obj members => .ok (place d (shape d members))
  | v => .error (notAnObject d v)

end WireRequest

end BalancerClient
