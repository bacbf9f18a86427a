import BalancerClient.Failure.Status
import BalancerClient.Json.Decode

/-!
# Error payloads from values

The record is also read from a JSON value.  Members that are absent keep their defaults,
unknown ones are ignored, and an array gives the members in the order of their declaration, as
many as it has.

## Main definitions

* `Status.ofJson` - the record that a value holds.
-/

namespace BalancerClient.Status

/-- The record with one member read from a value. -/
def putJson (s : Status) (m : Member) (v : Json) : Except DecodeError Status :=
  match m with
  | .code => v.asText.map fun code => { s with code }
  | .message => v.asText.map fun message => { s with message }
  | .requestId => (v.asOptional Json.asText).map fun requestId => { s with requestId }
  | .hostId => (v.asOptional Json.asText).map fun hostId => { s with hostId }
  | .recommend => (v.asOptional Json.asText).map fun recommend => { s with recommend }
  | .accessDeniedDetail =>
    (v.asOptional .ok).map fun accessDeniedDetail => { s with accessDeniedDetail }

/-- The record with the members of an object. -/
def putMembers (s : Status) : List (String × Json) → Except DecodeError Status
  | [] => .ok s
  | (name, v) :: rest =>
    match Member.ofName? name with
    | some m => (s.putJson m v).bind (putMembers · rest)
    | none => putMembers s rest

/-- The record with the members listed, as far as there are items, and the number of items
left. -/
def putItems (s : Status) : List Member → List Json → Except DecodeError (Status × Nat)
  | _, [] => .ok (s, 0)
  | [], items => .ok (s, items.length)
  | m :: members, v :: rest => (s.putJson m v).bind (putItems · members rest)

/-- The record that a value holds. -/
def ofJson : Json → Except DecodeError Status
  | .obj members => putMembers {} members
  | .arr items => do
    let (s, left) ← putItems {} Member.all items
    if left = 0 then return s else throw (.tooManyItems items.length)
  | v => .error (.wrongKind v "struct Status")

end BalancerClient.Status
