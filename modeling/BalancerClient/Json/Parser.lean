import BalancerClient.Json.Basic
import BalancerClient.Text.Utf8

/-!
# Reading JSON text

The reader works on octets, because whether a text ends too early or is wrong is decided octet
by octet and strings are checked for valid UTF-8 only once they are closed.  Each reader takes
the octets before it and gives back its value with the octets after it.

A value is read up to a given depth of arrays and objects.  Integers that fit 64 bits stay
integers, negative zero and everything else is a floating point number, and one beyond the
largest such number is an error.  A repeated member keeps its first place and takes its last
value.

## Main definitions

* `Json.Fault` - why a text cannot be read.
* `Json.Parse.string`, `Json.Parse.number`, `Json.Parse.value` - the readers.
* `Json.parse` - reads a whole text.
-/

namespace BalancerClient.Json

/-- Why a JSON text cannot be read: it ends too early, it is not JSON, or it is JSON that does
not fit what is read. -/
inductive Fault where
  | eof
  | syntactic
  | data
  deriving DecidableEq, Repr

/-- The greatest depth of arrays and objects in a text. -/
def maxNesting : Nat := 127

namespace Parse

/-- What a reader makes of the octets before it: a value and the octets after it. -/
abbrev Result (α : Type) := Except Fault (α × Bytes)

/-- Whether an octet is a blank between tokens. -/
def isBlank (b : UInt8) : Bool := b == 0x20 || b == 0x0a || b == 0x0d || b == 0x09

/-- The octets after the blanks. -/
def skipBlanks : Bytes → Bytes
  | [] => []
  | b :: rest => if isBlank b then skipBlanks rest else b :: rest

/-- Whether an octet is a decimal digit. -/
def isDigit (b : UInt8) : Bool := 0x30 ≤ b && b ≤ 0x39

/-- The value of a decimal digit. -/
def digitValue (b : UInt8) : Nat := b.toNat - 0x30

/-- The digits at the front, and the octets after them. -/
def digits : Bytes → Bytes × Bytes
  | [] => ([], [])
  | b :: rest =>
    if isDigit b then let (ds, after) := digits rest; (b :: ds, after) else ([], b :: rest)

/-- Reads the rest of a word whose first letter has been read. -/
def word : (letters : Bytes) → Bytes → Except Fault Bytes
  | [], rest => .ok rest
  | _ :: _, [] => .error .eof
  | l :: letters, b :: rest => if b = l then word letters rest else .error .syntactic

/-! ## Strings -/

/-- The value of a hexadecimal digit. -/
def hexValue? (b : UInt8) : Option Nat :=
  if 0x30 ≤ b && b ≤ 0x39 then some (b.toNat - 0x30)
  else if 0x41 ≤ b && b ≤ 0x46 then some (b.toNat - 0x41 + 10)
  else if 0x61 ≤ b && b ≤ 0x66 then some (b.toNat - 0x61 + 10)
  else none

/-- The value of four hexadecimal digits. -/
def hexUnit? (a b c d : UInt8) : Option Nat := do
  let a ← hexValue? a
  let b ← hexValue? b
  let c ← hexValue? c
  let d ← hexValue? d
  return ((a * 16 + b) * 16 + c) * 16 + d

/-- Whether a 16-bit unit opens a surrogate pair. -/
def isHighSurrogate (n : Nat) : Bool := 0xD800 ≤ n && n ≤ 0xDBFF

/-- Whether a 16-bit unit closes a surrogate pair. -/
def isLowSurrogate (n : Nat) : Bool := 0xDC00 ≤ n && n ≤ 0xDFFF

/-- The code point of a surrogate pair. -/
def surrogatePair (high low : Nat) : Nat := 0x10000 + (high - 0xD800) * 0x400 + (low - 0xDC00)

/-- The octets of a code point. -/
def codePoint (n : Nat) : Bytes := String.utf8EncodeChar (Char.ofNat n)

/-- The octet that a two-character escape stands for, by its second character. -/
def simpleEscape? (b : UInt8) : Option UInt8 :=
  if b = 0x22 then some 0x22
  else if b = 0x5c then some 0x5c
  else if b = 0x2f then some 0x2f
  else if b = 0x62 then some 0x08
  else if b = 0x66 then some 0x0c
  else if b = 0x6e then some 0x0a
  else if b = 0x72 then some 0x0d
  else if b = 0x74 then some 0x09
  else none

/-- Puts octets in front of what a reader of octets found. -/
def prepend (front : Bytes) : Result Bytes → Result Bytes
  | .ok (content, rest) => .ok (front ++ content, rest)
  | .error fault => .error fault

/-- Reads the content of a string up to its closing quotation mark, the opening one having
been read.  A surrogate must be followed by its other half, escaped as well. -/
def stringContent : Bytes → Result Bytes
  | [] => .error .eof
  | b :: rest =>
    if b = 0x22 then .ok ([], rest)
    else if b = 0x5c then
      match rest with
      | [] => .error .eof
      | e :: rest =>
        if e = 0x75 then
          match rest with
          | h₁ :: h₂ :: h₃ :: h₄ :: rest =>
            match hexUnit? h₁ h₂ h₃ h₄ with
            | none => .error .syntactic
            | some unit =>
              if isLowSurrogate unit then .error .syntactic
              else if isHighSurrogate unit then
                match rest with
                | [] => .error .eof
                | s :: rest =>
                  if s ≠ 0x5c then .error .syntactic
                  else
                    match rest with
                    | [] => .error .eof
                    | u :: rest =>
                      if u ≠ 0x75 then .error .syntactic
                      else
                        match rest with
                        | l₁ :: l₂ :: l₃ :: l₄ :: rest =>
                          match hexUnit? l₁ l₂ l₃ l₄ with
                          | none => .error .syntactic
                          | some low =>
                            if isLowSurrogate low then
                              prepend (codePoint (surrogatePair unit low))
                                (stringContent rest)
                            else .error .syntactic
                        | _ => .error .eof
              else prepend (codePoint unit) (stringContent rest)
          | _ => .error .eof
        else
          match simpleEscape? e with
          | none => .error .syntactic
          | some octet => prepend [octet] (stringContent rest)
    else if b < 0x20 then .error .syntactic
    else prepend [b] (stringContent rest)

/-- Reads a string whose opening quotation mark has been read. -/
def string (bytes : Bytes) : Result String :=
  match stringContent bytes with
  | .error fault => .error fault
  | .ok (content, rest) =>
    match Utf8.decode? content with
    | some s => .ok (s, rest)
    | none => .error .syntactic

/-! ## Numbers -/

/-- The greatest significand that is accumulated. -/
def maxSignificand : Nat := 0xffffffffffffffff

/-- Appends digits to a significand as long as it fits 64 bits, and counts the digits left
over. -/
def accumulate (significand : Nat) : (digits : Bytes) → Nat × Nat
  | [] => (significand, 0)
  | d :: rest =>
    let next := significand * 10 + digitValue d
    if next ≤ maxSignificand then accumulate next rest else (significand, rest.length + 1)

/-- The floating point number of a significand and a power of ten; one that is too large is an
error. -/
def floating (negative : Bool) (significand : Nat) (exponent : Int) : Except Fault Number :=
  match Binary64.ofDecimal? negative significand exponent with
  | some x => .ok (.float x)
  | none => .error .syntactic

/-- Reads an exponent, its letter having been read, and scales the significand by it. -/
def exponentPart (negative : Bool) (significand : Nat) (exponent : Int) (bytes : Bytes) :
    Result Number :=
  let (down, bytes) :=
    match bytes with
    | b :: rest =>
      if b = 0x2b then (false, rest)
      else if b = 0x2d then (true, rest) else (false, b :: rest)
    | [] => (false, [])
  match bytes with
  | [] => .error .eof
  | b :: _ =>
    if isDigit b then
      let (ds, rest) := digits bytes
      let shift : Int := ds.foldl (fun n d => n * 10 + digitValue d) 0
      (floating negative significand
        (if down then exponent - shift else exponent + shift)).map (·, rest)
    else .error .syntactic

/-- Reads the digits after a point that has been read, and an exponent after them. -/
def fractionPart (negative : Bool) (significand : Nat) (exponent : Int) (bytes : Bytes) :
    Result Number :=
  match digits bytes with
  | ([], []) => .error .eof
  | ([], _ :: _) => .error .syntactic
  | (ds, rest) =>
    let (significand, left) := accumulate significand ds
    let exponent := exponent - (ds.length - left : Nat)
    match rest with
    | [] => (floating negative significand exponent).map (·, [])
    | b :: after =>
      if b = 0x65 || b = 0x45 then exponentPart negative significand exponent after
      else (floating negative significand exponent).map (·, b :: after)

/-- The number of an integer literal: an integer where it fits 64 bits, else floating, as is
`-0`. -/
def integral (negative : Bool) (significand left : Nat) : Except Fault Number :=
  if left ≠ 0 then floating negative significand left
  else if negative then
    if significand = 0 ∨ 0x8000000000000000 < significand then floating true significand 0
    else .ok (.ofInt (-significand))
  else .ok (.ofInt significand)

/-- Reads a number whose minus sign, if any, has been read.  A leading zero stands alone. -/
def number (negative : Bool) (bytes : Bytes) : Result Number :=
  match digits bytes with
  | ([], []) => .error .eof
  | ([], _ :: _) => .error .syntactic
  | (d :: ds, rest) =>
    if d = 0x30 && !ds.isEmpty then .error .syntactic
    else
      let (significand, left) := accumulate 0 (d :: ds)
      match rest with
      | [] => (integral negative significand left).map (·, [])
      | b :: after =>
        if b = 0x2e then fractionPart negative significand left after
        else if b = 0x65 || b = 0x45 then exponentPart negative significand left after
        else (integral negative significand left).map (·, b :: after)

/-! ## Values -/

/-- What comes next in an array or an object: its end, or one more item or member. -/
inductive Next where
  | close (rest : Bytes)
  | more (rest : Bytes)

/-- Goes to the next item of an array, past a comma unless it is the first. -/
def nextItem (first : Bool) (bytes : Bytes) : Except Fault Next :=
  match skipBlanks bytes with
  | [] => .error .eof
  | b :: rest =>
    if b = 0x5d then .ok (.close rest)
    else if first then .ok (.more (b :: rest))
    else if b ≠ 0x2c then .error .syntactic
    else
      match skipBlanks rest with
      | [] => .error .eof
      | c :: rest => if c = 0x5d then .error .syntactic else .ok (.more (c :: rest))

/-- Reads the items of an array up to the closing bracket.  `fuel` bounds their number. -/
def items (item : Bytes → Result Json) :
    (fuel : Nat) → (first : Bool) → Bytes → Result (List Json)
  | 0, _, _ => .error .syntactic
  | fuel + 1, first, bytes =>
    match nextItem first bytes with
    | .error fault => .error fault
    | .ok (.close rest) => .ok ([], rest)
    | .ok (.more rest) =>
      match item rest with
      | .error fault => .error fault
      | .ok (v, rest) =>
        match items item fuel false rest with
        | .error fault => .error fault
        | .ok (vs, rest) => .ok (v :: vs, rest)

/-- Goes past the colon after a member's name. -/
def colon (bytes : Bytes) : Except Fault Bytes :=
  match skipBlanks bytes with
  | [] => .error .eof
  | b :: rest => if b = 0x3a then .ok rest else .error .syntactic

/-- Goes to the next member of an object, past a comma unless it is the first, and past the
opening quotation mark of its name. -/
def nextMember (first : Bool) (bytes : Bytes) : Except Fault Next :=
  match skipBlanks bytes with
  | [] => .error .eof
  | b :: rest =>
    if b = 0x7d then .ok (.close rest)
    else if first then if b = 0x22 then .ok (.more rest) else .error .syntactic
    else if b ≠ 0x2c then .error .syntactic
    else
      match skipBlanks rest with
      | [] => .error .eof
      | c :: rest => if c = 0x22 then .ok (.more rest) else .error .syntactic

/-- Reads the members of an object up to the closing brace, after those in `seen`. -/
def members (item : Bytes → Result Json) :
    (fuel : Nat) → (first : Bool) → (seen : List (String × Json)) → Bytes →
      Result (List (String × Json))
  | 0, _, _, _ => .error .syntactic
  | fuel + 1, first, seen, bytes =>
    match nextMember first bytes with
    | .error fault => .error fault
    | .ok (.close rest) => .ok (seen, rest)
    | .ok (.more rest) =>
      match string rest with
      | .error fault => .error fault
      | .ok (name, rest) =>
        match colon rest with
        | .error fault => .error fault
        | .ok rest =>
          match item rest with
          | .error fault => .error fault
          | .ok (v, rest) => members item fuel false (putMember name v seen) rest

/-- Reads a value that is neither an array nor an object, and starts with `b`. -/
def scalar (b : UInt8) (rest : Bytes) : Result Json :=
  if b = 0x6e then (word [0x75, 0x6c, 0x6c] rest).map (Json.null, ·)
  else if b = 0x74 then (word [0x72, 0x75, 0x65] rest).map (Json.bool true, ·)
  else if b = 0x66 then (word [0x61, 0x6c, 0x73, 0x65] rest).map (Json.bool false, ·)
  else if b = 0x22 then (string rest).map fun (s, rest) => (Json.str s, rest)
  else if b = 0x2d then (number true rest).map fun (n, rest) => (Json.num n, rest)
  else if isDigit b then (number false (b :: rest)).map fun (n, rest) => (Json.num n, rest)
  else .error .syntactic

/-- Reads a value with at most `depth` arrays and objects inside each other. -/
def value (depth : Nat) (bytes : Bytes) : Result Json :=
  match skipBlanks bytes with
  | [] => .error .eof
  | b :: rest =>
    if b = 0x5b then
      match depth with
      | 0 => .error .syntactic
      | depth + 1 =>
        (items (value depth) (rest.length + 1) true rest).map fun (vs, rest) =>
          (Json.arr vs, rest)
    else if b = 0x7b then
      match depth with
      | 0 => .error .syntactic
      | depth + 1 =>
        (members (value depth) (rest.length + 1) true [] rest).map fun (ms, rest) =>
          (Json.obj ms, rest)
    else scalar b rest

/-- Accepts nothing but blanks. -/
def finish (bytes : Bytes) : Except Fault Unit :=
  match skipBlanks bytes with
  | [] => .ok ()
  | _ :: _ => .error .syntactic

end Parse

/-- Reads a whole text, given by its octets. -/
def parse (bytes : Bytes) : Except Fault Json :=
  match Parse.value maxNesting bytes with
  | .error fault => .error fault
  | .ok (v, rest) => (Parse.finish rest).map fun _ => v

/-- Reads a whole text. -/
def parseText (s : String) : Except Fault Json := parse (Utf8.encode s)

end BalancerClient.Json
