import BalancerClient.Json.Printer

/-!
# The error payload of the service

A refused call comes with a code, a message for developers, and optionally the request's
number, the host that answered, a link to the troubleshooting pages and details of an access
policy.

## Main definitions

* `Status` - the payload, with its `set` functions.
* `Status.toJson` - its JSON object; every member is written, an absent one as null.
-/

namespace BalancerClient

/-- The error payload of the service. -/
structure Status where
  code : String := ""
  message : String := ""
  requestId : Option String := none
  hostId : Option String := none
  recommend : Option String := none
  accessDeniedDetail : Option Json := none
  deriving BEq, Repr, Inhabited

namespace Status

/-- The members of the payload. -/
inductive Member where
  | code
  | message
  | requestId
  | hostId
  | recommend
  | accessDeniedDetail
  deriving DecidableEq, Repr

/-- The members in the order of declaration. -/
def Member.all : List Member :=
  [.code, .message, .requestId, .hostId, .recommend, .accessDeniedDetail]

/-- The name of a member on the wire. -/
def Member.name : Member → String
  | .code => "Code"
  | .message => "Message"
  | .requestId => "RequestId"
  | .hostId => "HostId"
  | .recommend => "Recommend"
  | .accessDeniedDetail => "AccessDeniedDetail"

/-- The member of a name. -/
def Member.ofName? (name : String) : Option Member := Member.all.find? (·.name == name)

/-- The value of a member as it is written. -/
def memberJson (s : Status) : Member → Json
  | .code => .str s.code
  | .message => .str s.message
  | .requestId => .optional s.requestId
  | .hostId => .optional s.hostId
  | .recommend => .optional s.recommend
  | .accessDeniedDetail => s.accessDeniedDetail.getD .null

/-- The payload as a JSON object. -/
def toJson (s : Status) : Json := .obj (Member.all.map fun m => (m.name, s.memberJson m))

/-- The payload with another code. -/
def setCode (s : Status) (code : String) : Status := { s with code }

/-- The payload with another message. -/
def setMessage (s : Status) (message : String) : Status := { s with message }

/-- The payload with another request number. -/
def setRequestId (s : Status) (id : String) : Status := { s with requestId := some id }

/-- The payload with another host. -/
def setHostId (s : Status) (id : String) : Status := { s with hostId := some id }

/-- The payload with another link. -/
def setRecommend (s : Status) (link : String) : Status := { s with recommend := some link }

@[simp] theorem Member.ofName?_name (m : Member) : Member.ofName? m.name = some m := by
  cases m <;> decide

theorem Member.name_of_ofName? {name : String} {m : Member}
    (h : Member.ofName? name = some m) : m.name = name := by
  simpa using List.find?_some h

end Status

end BalancerClient
