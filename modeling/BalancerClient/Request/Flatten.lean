import BalancerClient.Json.Printer
import BalancerClient.Request.Parameters

/-!
# Flattening of values into parameters

Every scalar inside a value becomes one parameter.  It is named by the way to it: the name of
the value, then the names of members and the numbers of elements, counted from 1, joined by
points.  Null, empty lists and empty objects give no parameter, but every element of a list
takes a number.

## Main definitions

* `Json.scalarText?` - the text of a scalar.
* `Json.flatten` - sets the parameters of a value.
* `Partition`, `partition` - the scalar members of an object, and the others.
-/

namespace BalancerClient

/-- The text of a scalar: a string as it is, a number or a truth value as in JSON. -/
def Json.scalarText? : Json → Option String
  | .str s => some s
  | .num n => some (String.ofList n.chars)
  | .bool b => some (if b then "true" else "false")
  | _ => none

/-- The name of a part below a name. -/
def pathName (name part : String) : String := name ++ "." ++ part

namespace Json

mutual

/-- Sets the parameters of a value; of two with one name the later stays. -/
def flatten (name : String) : Json → Parameters → Parameters
  | obj members, p => flattenMembers name members p
  | arr items, p => flattenItems name 1 items p
  | null, p => p
  | str s, p => p.insert name s
  | num n, p => p.insert name (String.ofList n.chars)
  | bool b, p => p.insert name (if b then "true" else "false")
termination_by structural v => v

/-- Sets the parameters of the elements of a list, the first of which has the given number. -/
def flattenItems (name : String) (number : Nat) : List Json → Parameters → Parameters
  | [], p => p
  | v :: rest, p =>
    flattenItems name (number + 1) rest (v.flatten (pathName name (toString number)) p)
termination_by structural items => items

/-- Sets the parameters of the members of an object. -/
def flattenMembers (name : String) : List (String × Json) → Parameters → Parameters
  | [], p => p
  | (part, v) :: rest, p => flattenMembers name rest (v.flatten (pathName name part) p)
termination_by structural members => members

end

end Json

/-- The members of an object: the scalar ones as parameters, arrays and objects in their
order. -/
structure Partition where
  simple : Parameters
  structured : List (String × Json)

/-- Puts a member into its part; null goes into neither. -/
def Partition.add (p : Partition) (name : String) (v : Json) : Partition :=
  match v.scalarText? with
  | some text => { p with simple := p.simple.insert name text }
  | none => if v.isStructured then { p with structured := p.structured ++ [(name, v)] } else p

/-- The parts of an object. -/
def partition (members : List (String × Json)) : Partition :=
  members.foldl (fun p (name, v) => p.add name v) ⟨{}, []⟩

end BalancerClient
