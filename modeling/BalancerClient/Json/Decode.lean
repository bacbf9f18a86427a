import BalancerClient.Json.Printer
import BalancerClient.Text.Quoted

/-!
# Taking values apart

A value is read as a text, a flag or an integer of a given width; each refusal says what was
found and what was expected.

## Main definitions

* `DecodeError` - why a value does not fit, with its message.
* `Json.asText`, `Json.asFlag`, `Json.asInt32`, `Json.asInt64`, `Json.asList` - the readings.
-/

namespace BalancerClient

/-- Why a value does not fit what is read. -/
inductive DecodeError where
  /-- The value is of another kind. -/
  | wrongKind (found : Json) (expected : String)
  /-- The value is an integer that is too wide. -/
  | outOfRange (found : Int) (expected : String)
  /-- The value is an array with more items than the record has fields. -/
  | tooManyItems (count : Nat)
  deriving BEq, Repr

/-- A value in a message: its kind, and the value itself unless it is an array or an
object. -/
def Json.description : Json → String
  | .null => "null"
  | .bool b => "boolean `" ++ (if b then "true" else "false") ++ "`"
  | .num (.int n _) => "integer `" ++ String.ofList (intChars n) ++ "`"
  | .num (.float x) => "floating point `" ++ String.ofList x.text ++ "`"
  | .str s => "string " ++ Text.quoted s
  | .arr _ => "sequence"
  | .obj _ => "map"

/-- The refusal in words. -/
def DecodeError.message : DecodeError → String
  | .wrongKind found expected =>
    "invalid type: " ++ found.description ++ ", expected " ++ expected
  | .outOfRange found expected =>
    "invalid value: integer `" ++ String.ofList (intChars found) ++ "`, expected " ++ expected
  | .tooManyItems count =>
    "invalid length " ++ toString count ++ ", expected fewer elements in array"

namespace Json

/-- Reads a text. -/
def asText : Json → Except DecodeError String
  | .str s => .ok s
  | v => .error (.wrongKind v "a string")

/-- Reads a truth value. -/
def asFlag : Json → Except DecodeError Bool
  | .bool b => .ok b
  | v => .error (.wrongKind v "a boolean")

/-- Reads an integer of 32 bits. -/
def asInt32 : Json → Except DecodeError Int32
  | .num (.int n _) =>
    if -0x80000000 ≤ n ∧ n < 0x80000000 then .ok (.ofInt n) else .error (.outOfRange n "i32")
  | v => .error (.wrongKind v "i32")

/-- Reads an integer of 64 bits. -/
def asInt64 : Json → Except DecodeError Int64
  | .num (.int n _) =>
    if -0x8000000000000000 ≤ n ∧ n < 0x8000000000000000 then .ok (.ofInt n)
    else .error (.outOfRange n "i64")
  | v => .error (.wrongKind v "i64")

/-- Reads a list whose items are read by `item`; the first item that does not fit is
reported. -/
def asList {α : Type} (item : Json → Except DecodeError α) :
    Json → Except DecodeError (List α)
  | .arr items => items.mapM item
  | v => .error (.wrongKind v "a sequence")

/-- Reads a value that may be null. -/
def asOptional {α : Type} (read : Json → Except DecodeError α) :
    Json → Except DecodeError (Option α)
  | .null => .ok none
  | v => (read v).map some

@[simp] theorem asText_str (s : String) : asText (.str s) = .ok s := rfl

@[simp] theorem asFlag_bool (b : Bool) : asFlag (.bool b) = .ok b := rfl

@[simp] theorem asOptional_null {α : Type} (read : Json → Except DecodeError α) :
    asOptional read .null = .ok none := rfl

end Json

end BalancerClient
