import BalancerClient.Text.Hidden
import BalancerClient.Text.Utf8

/-!
# Quoted text in messages

Messages show a text between double quotes, with everything that a reader could not see or
could mistake for the end of the quotation written as an escape.  Octets that are no text are
shown the same way after a `b`, one escape per octet outside the ASCII graphic range.

## Main definitions

* `quoted` - a text in double quotes.
* `quotedBytes` - octets in double quotes, marked by a leading `b`.
-/

namespace BalancerClient.Text

/-- A number in lower-case hexadecimal digits, without leading zeros. -/
def hexDigits (n : Nat) : List Char := Nat.toDigits 16 n

/-- An octet in two lower-case hexadecimal digits. -/
def hexOctet (b : UInt8) : List Char :=
  match hexDigits b.toNat with
  | [low] => ['0', low]
  | digits => digits

/-- One character of a quoted text: the quotation mark, the backslash and the four named
controls have two-character escapes, any other character that cannot be seen is given by its
code point. -/
def quotedChar (c : Char) : List Char :=
  match c with
  | '"' => ['\\', '"']
  | '\\' => ['\\', '\\']
  | '\n' => ['\\', 'n']
  | '\r' => ['\\', 'r']
  | '\t' => ['\\', 't']
  | '\x00' => ['\\', '0']
  | c =>
    if c.toNat < 32 || isHidden c then ['\\', 'u', '\x7b'] ++ hexDigits c.toNat ++ ['\x7d']
    else [c]

/-- A text in double quotes. -/
def quoted (s : String) : String :=
  String.ofList ('"' :: s.toList.flatMap quotedChar ++ ['"'])

/-- One octet of quoted octets. -/
def quotedOctet (b : UInt8) : List Char :=
  match Char.ofNat b.toNat with
  | '"' => ['\\', '"']
  | '\\' => ['\\', '\\']
  | '\n' => ['\\', 'n']
  | '\r' => ['\\', 'r']
  | '\t' => ['\\', 't']
  | '\x00' => ['\\', '0']
  | c => if 32 ≤ b.toNat && b.toNat < 127 then [c] else ['\\', 'x'] ++ hexOctet b

/-- Octets in double quotes after a `b`. -/
def quotedBytes (bytes : Bytes) : String :=
  String.ofList ('b' :: '"' :: bytes.flatMap quotedOctet ++ ['"'])

end BalancerClient.Text
