import BalancerClient.Text.Hidden
import BalancerClient.Text.Pieces
import BalancerClient.Text.Punycode

/-!
# Domain names

A domain name is compared and looked up in a canonical form: letters in lower case, wide
letters and digits as their ASCII counterparts, any of the four full stops as a point, and
characters that only control the layout left out.  Labels keep their characters beyond ASCII
here.

## Main definitions

* `Domain.ofChars?` - the canonical form of a domain name.
-/

namespace BalancerClient.Domain

/-- Whether an ASCII character may not stand in a domain name. -/
def isDenied (c : Char) : Bool :=
  c.toNat ≤ 32 || c.toNat == 127 || "%#/:<>?@[\\]^|".toList.contains c

/-- Whether a character is left out. -/
def isLeftOut (c : Char) : Bool :=
  let n := c.toNat
  n == 0xAD || n == 0x34F || n == 0x180F || n == 0x200B || n == 0x2060 || n == 0x2064 ||
    n == 0xFEFF || (0x180B ≤ n && n ≤ 0x180D) || (0xFE00 ≤ n && n ≤ 0xFE0F) ||
    (0x1BCA0 ≤ n && n ≤ 0x1BCA3) || (0xE0100 ≤ n && n ≤ 0xE01EF)

/-- Whether a character stands for something that cannot be shown. -/
def isReplacement (c : Char) : Bool := c.toNat == 0xFFFC || c.toNat == 0xFFFD

/-- Whether a character is a full stop of another script. -/
def isFullStop (c : Char) : Bool :=
  c.toNat == 0x3002 || c.toNat == 0xFF0E || c.toNat == 0xFF61

/-- The ASCII character that a wide character stands for. -/
def narrow? (c : Char) : Option Char :=
  if 0xFF01 ≤ c.toNat && c.toNat ≤ 0xFF5E then some (Char.ofNat (c.toNat - 0xFEE0)) else none

/-- An ASCII character in canonical form. -/
def ascii? (c : Char) : Option (List Char) := if isDenied c then none else some [c.toLower]

/-- A character in canonical form. -/
def char? (c : Char) : Option (List Char) :=
  if c.toNat < 128 then ascii? c
  else if isLeftOut c then some []
  else if isFullStop c then some ['.']
  else
    match narrow? c with
    | some d => ascii? d
    | none => if Text.isGlyphless c || isReplacement c then none else some [c]

/-- A text, character by character. -/
def chars? : List Char → Option (List Char)
  | [] => some []
  | c :: rest => do
    let front ← char? c
    let back ← chars? rest
    return front ++ back

/-- The characters of a label that is written in Punycode. -/
def encoded? (label : List Char) : Option (List Char) :=
  if ['x', 'n', '-', '-'].isPrefixOf label then some (label.drop 4) else none

/-- Whether the characters behind a label are canonical and could not be written without
Punycode. -/
def isEncodable (cs : List Char) : Bool :=
  chars? cs == some cs && cs.any (fun c => 128 ≤ c.toNat) && !cs.contains '.'

/-- Whether a mark without a character before it starts a text. -/
def startsWithMark : List Char → Bool
  | [] => false
  | c :: _ => Text.isExtender c

/-- Whether a label may stand in a domain name. -/
def isLabel (label : List Char) : Bool :=
  match encoded? label with
  | some cs =>
    match Punycode.decode? cs with
    | some decoded => isEncodable decoded && !startsWithMark decoded
    | none => false
  | none => !startsWithMark label

/-- The canonical form of a domain name. -/
def ofChars? (cs : List Char) : Option (List Char) := do
  let canonical ← chars? cs
  if (Text.pieces (· == '.') canonical).all isLabel then some canonical else none

/-- The canonical form of a text is made of those of its parts. -/
theorem chars?_append (a b : List Char) :
    chars? (a ++ b) = (chars? a).bind fun x => (chars? b).map fun y => x ++ y := by
  induction a with
  | nil => simp [chars?]
  | cons c a ih =>
    simp only [List.cons_append, chars?, ih]
    cases char? c <;> cases chars? a <;> cases chars? b <;> simp

end BalancerClient.Domain
