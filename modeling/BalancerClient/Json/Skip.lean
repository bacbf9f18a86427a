import BalancerClient.Json.Parser

/-!
# Passing over a value

A member that nobody asks for is passed over without being built.  Its text must have the
shape of JSON, but numbers are not measured, the halves of surrogate pairs are not matched,
octets in strings are not checked to be UTF-8, and arrays and objects may contain each other
to any depth: the arrays and objects that are open are kept in a list.

## Main definitions

* `Json.Skip.stringContent`, `Json.Skip.number` - pass over a string and a number.
* `Json.Skip.value` - passes over a value.
-/

namespace BalancerClient.Json.Skip

open Parse (skipBlanks isDigit digits hexValue? simpleEscape? word colon)

/-- Passes over the content of a string and its closing quotation mark. -/
def stringContent : Bytes → Except Fault Bytes
  | [] => .error .eof
  | b :: rest =>
    if b = 0x22 then .ok rest
    else if b = 0x5c then
      match rest with
      | [] => .error .eof
      | e :: rest =>
        if e = 0x75 then
          match rest with
          | h₁ :: h₂ :: h₃ :: h₄ :: rest =>
            if (Parse.hexUnit? h₁ h₂ h₃ h₄).isSome then stringContent rest
            else .error .syntactic
          | _ => .error .eof
        else if (simpleEscape? e).isSome then stringContent rest
        else .error .syntactic
    else if b < 0x20 then .error .syntactic
    else stringContent rest

/-- Passes over at least one digit. -/
def someDigits (bytes : Bytes) : Except Fault Bytes :=
  match digits bytes with
  | ([], _) => .error .syntactic
  | (_ :: _, rest) => .ok rest

/-- Passes over the exponent of a number, its letter having been read. -/
def exponentPart : Bytes → Except Fault Bytes
  | b :: rest => if b = 0x2b || b = 0x2d then someDigits rest else someDigits (b :: rest)
  | [] => .error .syntactic

/-- Passes over an exponent if there is one. -/
def optionalExponent : Bytes → Except Fault Bytes
  | b :: rest => if b = 0x65 || b = 0x45 then exponentPart rest else .ok (b :: rest)
  | [] => .ok []

/-- Passes over a number whose minus sign, if any, has been read. -/
def number (bytes : Bytes) : Except Fault Bytes :=
  match digits bytes with
  | ([], _) => .error .syntactic
  | (d :: ds, rest) =>
    if d = 0x30 && !ds.isEmpty then .error .syntactic
    else
      match rest with
      | b :: after =>
        if b = 0x2e then (someDigits after).bind optionalExponent
        else optionalExponent (b :: after)
      | [] => .ok []

/-- Passes over a value that is neither an array nor an object, and starts with `b`. -/
def scalar (b : UInt8) (rest : Bytes) : Except Fault Bytes :=
  if b = 0x6e then word [0x75, 0x6c, 0x6c] rest
  else if b = 0x74 then word [0x72, 0x75, 0x65] rest
  else if b = 0x66 then word [0x61, 0x6c, 0x73, 0x65] rest
  else if b = 0x22 then stringContent rest
  else if b = 0x2d then number rest
  else if isDigit b then number (b :: rest)
  else .error .syntactic

/-- What is open around the place of the reader. -/
inductive Frame where
  | array
  | object

/-- Passes over a member's name, its opening quotation mark included, and the colon after
it. -/
def memberName (bytes : Bytes) : Except Fault Bytes :=
  match skipBlanks bytes with
  | [] => .error .eof
  | b :: rest => if b = 0x22 then (stringContent rest).bind colon else .error .syntactic

mutual

/-- Passes over a value inside the open frames, and over everything up to the end of the
outermost one.  `fuel` bounds the number of values and closings. -/
def inside : (fuel : Nat) → (frames : List Frame) → Bytes → Except Fault Bytes
  | 0, _, _ => .error .syntactic
  | fuel + 1, frames, bytes =>
    match skipBlanks bytes with
    | [] => .error .eof
    | b :: rest =>
      if b = 0x5b then
        match skipBlanks rest with
        | [] => .error .eof
        | c :: after =>
          if c = 0x5d then behind fuel frames after
          else inside fuel (.array :: frames) (c :: after)
      else if b = 0x7b then
        match skipBlanks rest with
        | [] => .error .eof
        | c :: after =>
          if c = 0x7d then behind fuel frames after
          else
            match memberName (c :: after) with
            | .error fault => .error fault
            | .ok rest => inside fuel (.object :: frames) rest
      else
        match scalar b rest with
        | .error fault => .error fault
        | .ok rest => behind fuel frames rest
termination_by structural fuel => fuel

/-- Goes on behind a value: to the next one of the innermost frame, or out of it. -/
def behind : (fuel : Nat) → (frames : List Frame) → Bytes → Except Fault Bytes
  | _, [], bytes => .ok bytes
  | 0, _ :: _, _ => .error .syntactic
  | fuel + 1, frame :: frames, bytes =>
    match skipBlanks bytes with
    | [] => .error .eof
    | b :: rest =>
      match frame with
      | .array =>
        if b = 0x2c then inside fuel (.array :: frames) rest
        else if b = 0x5d then behind fuel frames rest
        else .error .syntactic
      | .object =>
        if b = 0x2c then
          match memberName rest with
          | .error fault => .error fault
          | .ok rest => inside fuel (.object :: frames) rest
        else if b = 0x7d then behind fuel frames rest
        else .error .syntactic
termination_by structural fuel => fuel

end

/-- Passes over a value. -/
def value (bytes : Bytes) : Except Fault Bytes := inside (bytes.length + 1) [] bytes

end BalancerClient.Json.Skip
