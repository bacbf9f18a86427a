import BalancerClient.Json.Parser

/-!
# JSON texts

A text says more than the value that it stands for: it has blanks between its tokens, a
character of a string may be escaped or not, a number may be written in many ways, and a name
may occur twice in an object.  Here a text is a tree of its tokens, of any depth.

Not every text stands for a value.  The octets of a string may be no UTF-8, a half of a
surrogate pair may stand alone, and a number may be too large.

## Main definitions

* `StringText`, `NumberText` - the texts of strings and numbers.
* `JsonText` - the text of a value, with `JsonText.octets` and `JsonText.nesting`.
* `JsonText.value?` - the value that a text stands for.
* `ObjectText` - the text of an object, with the blanks around it.
-/

namespace BalancerClient

open Json.Parse (isDigit simpleEscape? hexUnit? isLowSurrogate isHighSurrogate
  surrogatePair codePoint digitValue accumulate integral floating)

/-! ## Tokens -/

/-- Blanks between tokens. -/
structure Blanks where
  octets : Bytes
  isBlank : ∀ b ∈ octets, Json.Parse.isBlank b = true

/-- No blanks. -/
def Blanks.none : Blanks := ⟨[], List.forall_mem_nil _⟩

/-- Something with blanks around it. -/
structure Padded (α : Type) where
  before : Blanks
  body : α
  after : Blanks

/-- A piece of a string: an octet that stands for itself, an escape by a letter, or one by a
number of four digits. -/
inductive StringPiece where
  | octet (b : UInt8) (plain : 0x20 ≤ b ∧ b ≠ 0x22 ∧ b ≠ 0x5c)
  | letter (e octet : UInt8) (escape : simpleEscape? e = some octet)
  | unit (h₁ h₂ h₃ h₄ : UInt8) (n : Nat) (digits : hexUnit? h₁ h₂ h₃ h₄ = some n)

/-- The content of a string. -/
abbrev StringText := List StringPiece

/-- The octets of a piece of a string. -/
def StringPiece.octets : StringPiece → Bytes
  | octet b _ => [b]
  | letter e _ _ => [0x5c, e]
  | unit h₁ h₂ h₃ h₄ _ _ => [0x5c, 0x75, h₁, h₂, h₃, h₄]

namespace StringText

/-- The octets of the content of a string. -/
def octets (s : StringText) : Bytes := s.flatMap StringPiece.octets

/-- The octets that a string stands for.  A surrogate must be followed by its other half. -/
def content? : StringText → Option Bytes
  | [] => some []
  | .octet b _ :: rest => (content? rest).map (b :: ·)
  | .letter _ octet _ :: rest => (content? rest).map (octet :: ·)
  | .unit _ _ _ _ n _ :: rest =>
    if isLowSurrogate n then none
    else if isHighSurrogate n then
      match rest with
      | .unit _ _ _ _ low _ :: rest =>
        if isLowSurrogate low then (content? rest).map (codePoint (surrogatePair n low) ++ ·)
        else none
      | _ => none
    else (content? rest).map (codePoint n ++ ·)

/-- Whether no half of a surrogate pair stands alone. -/
def IsPaired (s : StringText) : Prop := s.content?.isSome

/-- The characters that a string stands for. -/
def text? (s : StringText) : Option String := s.content?.bind Utf8.decode?

end StringText

/-- At least one decimal digit. -/
structure Digits where
  octets : Bytes
  ne_nil : octets ≠ []
  isDigit : ∀ b ∈ octets, Json.Parse.isDigit b = true

/-- An exponent: its letter, a sign if there is one, and its digits. -/
structure ExponentText where
  capital : Bool
  /-- Whether the sign is a minus. -/
  sign : Option Bool
  digits : Digits

namespace ExponentText

/-- The octets of the sign of an exponent. -/
def signOctets (e : ExponentText) : Bytes :=
  match e.sign with
  | none => []
  | some false => [0x2b]
  | some true => [0x2d]

/-- The octets of an exponent. -/
def octets (e : ExponentText) : Bytes :=
  (if e.capital then 0x45 else 0x65) :: (e.signOctets ++ e.digits.octets)

/-- The number that an exponent stands for. -/
def value (e : ExponentText) : Int :=
  let n : Int := e.digits.octets.foldl (fun n d => n * 10 + digitValue d) 0
  if e.sign = some true then -n else n

end ExponentText

/-- A number.  A leading zero stands alone. -/
structure NumberText where
  negative : Bool
  whole : Digits
  fraction : Option Digits
  exponent : Option ExponentText
  leading : whole.octets.head? = some 0x30 → whole.octets = [0x30]

namespace NumberText

/-- The octets behind the whole part of a number. -/
def tailOctets (n : NumberText) : Bytes :=
  (n.fraction.elim [] fun ds => 0x2e :: ds.octets) ++ n.exponent.elim [] ExponentText.octets

/-- The octets of a number without its sign. -/
def unsignedOctets (n : NumberText) : Bytes := n.whole.octets ++ n.tailOctets

/-- The octets of a number. -/
def octets (n : NumberText) : Bytes := (if n.negative then [0x2d] else []) ++ n.unsignedOctets

/-- The number that a text stands for, unless it is too large.  Without a fraction and an
exponent it is an integer as far as possible. -/
def value? (n : NumberText) : Option Number :=
  let (significand, left) := accumulate 0 n.whole.octets
  match n.fraction, n.exponent with
  | none, none => (integral n.negative significand left).toOption
  | none, some e => (floating n.negative significand (left + e.value)).toOption
  | some ds, e =>
    let (significand, unused) := accumulate significand ds.octets
    let exponent : Int := left - (ds.octets.length - unused : Nat)
    (floating n.negative significand (exponent + e.elim 0 ExponentText.value)).toOption

end NumberText

/-! ## Values -/

/-- The text of a value.  The blanks in front of a closing bracket are apart, as there may be
no items. -/
inductive JsonText where
  | null
  | bool (value : Bool)
  | num (number : NumberText)
  | str (content : StringText)
  | arr (items : List (Padded JsonText)) (close : Blanks)
  | obj (members : List (Padded StringText × Padded JsonText)) (close : Blanks)

namespace JsonText

/-- Whether a text is that of null. -/
def isNull : JsonText → Bool
  | null => true
  | _ => false

/-- Whether a text is a string. -/
def isString : JsonText → Bool
  | str _ => true
  | _ => false

/-- The comma in front of an item or a member that is not the first. -/
def comma (first : Bool) : Bytes := if first then [] else [0x2c]

/-- The octets of a name with the blanks around it. -/
def nameOctets (name : Padded StringText) : Bytes :=
  name.before.octets ++ 0x22 :: (name.body.octets ++ 0x22 :: name.after.octets)

mutual

/-- The octets of a text. -/
def octets : JsonText → Bytes
  | null => [0x6e, 0x75, 0x6c, 0x6c]
  | bool true => [0x74, 0x72, 0x75, 0x65]
  | bool false => [0x66, 0x61, 0x6c, 0x73, 0x65]
  | num n => n.octets
  | str s => 0x22 :: (s.octets ++ [0x22])
  | arr items close => 0x5b :: itemOctets true items close
  | obj members close => 0x7b :: memberOctets true members close
termination_by structural v => v

/-- The items of an array up to and with the closing bracket. -/
def itemOctets (first : Bool) : List (Padded JsonText) → Blanks → Bytes
  | [], close => close.octets ++ [0x5d]
  | ⟨before, v, after⟩ :: rest, close =>
    comma first ++ before.octets ++ v.octets ++ after.octets ++ itemOctets false rest close
termination_by structural items => items

/-- The members of an object up to and with the closing brace. -/
def memberOctets (first : Bool) : List (Padded StringText × Padded JsonText) → Blanks → Bytes
  | [], close => close.octets ++ [0x7d]
  | (name, ⟨before, v, after⟩) :: rest, close =>
    comma first ++ nameOctets name ++ 0x3a :: (before.octets ++ v.octets ++ after.octets) ++
      memberOctets false rest close
termination_by structural members => members

end

mutual

/-- How deep arrays and objects contain each other in a text. -/
def nesting : JsonText → Nat
  | arr items _ => nestingItems items + 1
  | obj members _ => nestingMembers members + 1
  | _ => 0
termination_by structural v => v

/-- The deepest nesting of a list of items. -/
def nestingItems : List (Padded JsonText) → Nat
  | [] => 0
  | ⟨_, v, _⟩ :: rest => max v.nesting (nestingItems rest)
termination_by structural items => items

/-- The deepest nesting of a list of members. -/
def nestingMembers : List (Padded StringText × Padded JsonText) → Nat
  | [] => 0
  | (_, ⟨_, v, _⟩) :: rest => max v.nesting (nestingMembers rest)
termination_by structural members => members

end

mutual

/-- The value that a text stands for. -/
def value? : JsonText → Option Json
  | null => some .null
  | bool b => some (.bool b)
  | num n => n.value?.map .num
  | str s => s.text?.map .str
  | arr items _ => (values? items).map .arr
  | obj members _ => (membersFrom? [] members).map .obj
termination_by structural v => v

/-- The values of a list of items. -/
def values? : List (Padded JsonText) → Option (List Json)
  | [] => some []
  | ⟨_, v, _⟩ :: rest => do
    let v ← v.value?
    let vs ← values? rest
    return v :: vs
termination_by structural items => items

/-- The members of an object behind those in `seen`.  A repeated member keeps its first place
and takes its last value. -/
def membersFrom? (seen : List (String × Json)) :
    List (Padded StringText × Padded JsonText) → Option (List (String × Json))
  | [] => some seen
  | (name, ⟨_, v, _⟩) :: rest => do
    let name ← name.body.text?
    let v ← v.value?
    membersFrom? (putMember name v seen) rest
termination_by structural members => members

end

mutual

/-- The strings in a text, those of names included. -/
def strings : JsonText → List StringText
  | str s => [s]
  | arr items _ => itemStrings items
  | obj members _ => memberStrings members
  | _ => []
termination_by structural v => v

/-- The strings in a list of items. -/
def itemStrings : List (Padded JsonText) → List StringText
  | [] => []
  | ⟨_, v, _⟩ :: rest => v.strings ++ itemStrings rest
termination_by structural items => items

/-- The strings in a list of members. -/
def memberStrings : List (Padded StringText × Padded JsonText) → List StringText
  | [] => []
  | (name, ⟨_, v, _⟩) :: rest => name.body :: (v.strings ++ memberStrings rest)
termination_by structural members => members

end

mutual

/-- The numbers in a text. -/
def numbers : JsonText → List NumberText
  | num n => [n]
  | arr items _ => itemNumbers items
  | obj members _ => memberNumbers members
  | _ => []
termination_by structural v => v

/-- The numbers in a list of items. -/
def itemNumbers : List (Padded JsonText) → List NumberText
  | [] => []
  | ⟨_, v, _⟩ :: rest => v.numbers ++ itemNumbers rest
termination_by structural items => items

/-- The numbers in a list of members. -/
def memberNumbers : List (Padded StringText × Padded JsonText) → List NumberText
  | [] => []
  | (_, ⟨_, v, _⟩) :: rest => v.numbers ++ memberNumbers rest
termination_by structural members => members

end

end JsonText

/-- The text of an object, with the blanks around it. -/
structure ObjectText where
  before : Blanks
  members : List (Padded StringText × Padded JsonText)
  close : Blanks
  after : Blanks

/-- The octets of an object with the blanks around it. -/
def ObjectText.octets (t : ObjectText) : Bytes :=
  t.before.octets ++ 0x7b :: JsonText.memberOctets true t.members t.close ++ t.after.octets

end BalancerClient
