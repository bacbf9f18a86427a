import BalancerClient.Json.Basic

/-!
# Compact JSON text

The text of a value has no blanks.  In a string the quotation mark, the backslash and the
control characters are escaped, the latter by their two-character escape where there is one;
every other character stands for itself.

## Main definitions

* `Json.chars`, `Json.compact` - the text of a value.
* `Number.chars` - the text of a number.
-/

namespace BalancerClient

/-- An integer in decimal digits. -/
def intChars (n : Int) : List Char :=
  if n < 0 then '-' :: Nat.toDigits 10 n.natAbs else Nat.toDigits 10 n.natAbs

/-- The text of a number. -/
def Number.chars : Number → List Char
  | .int n _ => intChars n
  | .float x => x.text

namespace Json

/-- The escape of a control character that has no escape of its own. -/
def controlEscape (c : Char) : List Char :=
  match Nat.toDigits 16 c.toNat with
  | [low] => ['\\', 'u', '0', '0', '0', low]
  | digits => ['\\', 'u', '0', '0'] ++ digits

/-- A character inside a string. -/
def escape (c : Char) : List Char :=
  match c with
  | '"' => ['\\', '"']
  | '\\' => ['\\', '\\']
  | '\x08' => ['\\', 'b']
  | '\x0c' => ['\\', 'f']
  | '\n' => ['\\', 'n']
  | '\r' => ['\\', 'r']
  | '\t' => ['\\', 't']
  | c => if c.toNat < 32 then controlEscape c else [c]

/-- A text as a JSON string. -/
def stringChars (s : String) : List Char := '"' :: s.toList.flatMap escape ++ ['"']

mutual

/-- The compact text of a value, as characters. -/
def chars : Json → List Char
  | null => ['n', 'u', 'l', 'l']
  | bool true => ['t', 'r', 'u', 'e']
  | bool false => ['f', 'a', 'l', 's', 'e']
  | num n => n.chars
  | str s => stringChars s
  | arr items => '[' :: itemChars items
  | obj members => '\x7b' :: memberChars members
termination_by structural v => v

/-- The items of an array, separated by commas, up to and with the closing bracket. -/
def itemChars : List Json → List Char
  | [] => [']']
  | v :: rest => v.chars ++ moreItemChars rest
termination_by structural vs => vs

/-- The further items of an array, each after a comma. -/
def moreItemChars : List Json → List Char
  | [] => [']']
  | v :: rest => ',' :: (v.chars ++ moreItemChars rest)
termination_by structural vs => vs

/-- The members of an object, separated by commas, up to and with the closing brace. -/
def memberChars : List (String × Json) → List Char
  | [] => ['\x7d']
  | (name, v) :: rest => stringChars name ++ ':' :: (v.chars ++ moreMemberChars rest)
termination_by structural ms => ms

/-- The further members of an object, each after a comma. -/
def moreMemberChars : List (String × Json) → List Char
  | [] => ['\x7d']
  | (name, v) :: rest => ',' :: (stringChars name ++ ':' :: (v.chars ++ moreMemberChars rest))
termination_by structural ms => ms

end

/-- The compact text of a value. -/
def compact (v : Json) : String := String.ofList v.chars

end Json

end BalancerClient
