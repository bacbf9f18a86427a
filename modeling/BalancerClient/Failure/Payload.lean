import BalancerClient.Failure.Status
import BalancerClient.Json.Skip

/-!
# Recognising error payloads

A reply that reports a failure is recognised by its text: a JSON object with a code.  The text
is read member by member.  A known member may occur once, unknown ones are passed over, and an
array gives the members in the order of their declaration.

There are two ways to finish: the payload of a failed call must have a code, and an array all
six members; read as a record, members that do not occur keep their defaults.

## Main definitions

* `Status.Draft` - what has been read of the members.
* `Status.ofPayload` - the payload of a failed call.
* `Status.ofText` - the record that a text holds.
-/

namespace BalancerClient.Status

open Json (Fault)
open Json.Parse (skipBlanks Result)

/-- What has been read of the members: nothing, or the value that a member was given. -/
structure Draft where
  code : Option String := none
  message : Option String := none
  requestId : Option (Option String) := none
  hostId : Option (Option String) := none
  recommend : Option (Option String) := none
  accessDeniedDetail : Option (Option Json) := none

/-- Whether a member has been read. -/
def Draft.has (d : Draft) : Member → Bool
  | .code => d.code.isSome
  | .message => d.message.isSome
  | .requestId => d.requestId.isSome
  | .hostId => d.hostId.isSome
  | .recommend => d.recommend.isSome
  | .accessDeniedDetail => d.accessDeniedDetail.isSome

/-- The payload of what has been read, with the defaults of members that have not. -/
def Draft.toStatus (d : Draft) : Status :=
  ⟨d.code.getD "", d.message.getD "", d.requestId.getD none, d.hostId.getD none,
    d.recommend.getD none, d.accessDeniedDetail.getD none⟩

/-! ## Values of members -/

/-- Why a value that starts with `b` does not fit: a scalar must at least be well formed. -/
def mismatch (b : UInt8) (rest : Bytes) : Fault :=
  if b = 0x5b || b = 0x7b then .data
  else
    match Json.Parse.scalar b rest with
    | .error fault => fault
    | .ok _ => .data

/-- Reads a text. -/
def readText (bytes : Bytes) : Result String :=
  match skipBlanks bytes with
  | [] => .error .eof
  | b :: rest => if b = 0x22 then Json.Parse.string rest else .error (mismatch b rest)

/-- Reads null, or what `read` reads. -/
def readOptional {α : Type} (read : Bytes → Result α) (bytes : Bytes) : Result (Option α) :=
  let present := (read bytes).map fun (v, rest) => (some v, rest)
  match skipBlanks bytes with
  | b :: rest =>
    if b = 0x6e then (Json.Parse.word [0x75, 0x6c, 0x6c] rest).map (none, ·) else present
  | [] => present

/-- The depth of arrays and objects left inside the payload. -/
def detailNesting : Nat := Json.maxNesting - 1

/-- Reads the value of a member into the draft. -/
def readMember (d : Draft) (m : Member) (bytes : Bytes) : Result Draft :=
  match m with
  | .code => (readText bytes).map fun (v, rest) => ({ d with code := some v }, rest)
  | .message => (readText bytes).map fun (v, rest) => ({ d with message := some v }, rest)
  | .requestId =>
    (readOptional readText bytes).map fun (v, rest) => ({ d with requestId := some v }, rest)
  | .hostId =>
    (readOptional readText bytes).map fun (v, rest) => ({ d with hostId := some v }, rest)
  | .recommend =>
    (readOptional readText bytes).map fun (v, rest) => ({ d with recommend := some v }, rest)
  | .accessDeniedDetail =>
    (readOptional (Json.Parse.value detailNesting) bytes).map fun (v, rest) =>
      ({ d with accessDeniedDetail := some v }, rest)

/-! ## Objects and arrays -/

/-- Reads the member of a name, which has been read, or passes over it. -/
def readNamed (d : Draft) (name : String) (bytes : Bytes) : Result Draft :=
  match Member.ofName? name with
  | some m =>
    if d.has m then .error .data
    else (Json.Parse.colon bytes).bind (readMember d m)
  | none => ((Json.Parse.colon bytes).bind Json.Skip.value).map (d, ·)

/-- Reads the members of an object up to its closing brace.  `fuel` bounds their number. -/
def readObject (finish : Draft → Except Fault Status) :
    (fuel : Nat) → (first : Bool) → Draft → Bytes → Except Fault Status
  | 0, _, _, _ => .error .syntactic
  | fuel + 1, first, d, bytes =>
    match Json.Parse.nextMember first bytes with
    | .error fault => .error fault
    | .ok (.close rest) => do
      let s ← finish d
      Json.Parse.finish rest
      return s
    | .ok (.more rest) =>
      match Json.Parse.string rest with
      | .error fault => .error fault
      | .ok (name, rest) =>
        match readNamed d name rest with
        | .error fault => .error fault
        | .ok (d, rest) => readObject finish fuel false d rest

/-- Goes past the end of an array that has no more room. -/
def closeArray (bytes : Bytes) : Except Fault Bytes :=
  match skipBlanks bytes with
  | [] => .error .eof
  | b :: rest => if b = 0x5d then .ok rest else .error .syntactic

/-- Reads the elements of an array as the members listed. -/
def readArray (finish : Draft → Except Fault Status) :
    List Member → (first : Bool) → Draft → Bytes → Except Fault Status
  | [], _, d, bytes => do
    let s ← finish d
    let rest ← closeArray bytes
    Json.Parse.finish rest
    return s
  | m :: members, first, d, bytes =>
    match Json.Parse.nextItem first bytes with
    | .error fault => .error fault
    | .ok (.close rest) => do
      let s ← finish d
      Json.Parse.finish rest
      return s
    | .ok (.more rest) =>
      match readMember d m rest with
      | .error fault => .error fault
      | .ok (d, rest) => readArray finish members false d rest

/-- Reads a text as an object or an array of the payload's members. -/
def read (finishObject finishArray : Draft → Except Fault Status) (bytes : Bytes) :
    Except Fault Status :=
  match skipBlanks bytes with
  | [] => .error .eof
  | b :: rest =>
    if b = 0x7b then readObject finishObject (rest.length + 1) true {} rest
    else if b = 0x5b then readArray finishArray Member.all true {} rest
    else .error (mismatch b rest)

/-- Accepts a draft with a code. -/
def needsCode (d : Draft) : Except Fault Status :=
  if d.has .code then .ok d.toStatus else .error .data

/-- Accepts a draft with every member. -/
def needsAll (d : Draft) : Except Fault Status :=
  if Member.all.all d.has then .ok d.toStatus else .error .data

/-- Accepts any draft. -/
def needsNothing (d : Draft) : Except Fault Status := .ok d.toStatus

/-- The payload of a failed call. -/
def ofPayload (bytes : Bytes) : Except Fault Status := read needsCode needsAll bytes

/-- The record that a text holds. -/
def ofText (bytes : Bytes) : Except Fault Status := read needsNothing needsNothing bytes

end BalancerClient.Status
