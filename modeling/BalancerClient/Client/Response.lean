import BalancerClient.Http.Headers

/-!
# Responses

A response is a body together with the status code and the header fields of the reply that
brought it.

## Main definitions

* `Parts` - a status code and header fields.
* `Response` - a response; `Response.ofBody` makes one without a reply.
-/

namespace BalancerClient

/-- What a response holds besides its body. -/
structure Parts where
  status : Nat := 200
  headers : Headers := {}
  deriving DecidableEq, Repr, Inhabited

namespace Parts

/-- A setting of the parts. -/
inductive Step where
  /-- Start over. -/
  | fresh
  | status (code : Nat)
  | headers (fields : Headers)
  deriving DecidableEq, Repr

/-- The parts after a setting. -/
def apply (p : Parts) : Step → Parts
  | .fresh => {}
  | .status code => { p with status := code }
  | .headers fields => { p with headers := fields }

end Parts

/-- A response. -/
structure Response (α : Type) where
  parts : Parts
  body : α
  deriving DecidableEq, Repr

namespace Response

/-- The status code of a response. -/
def status {α : Type} (r : Response α) : Nat := r.parts.status

/-- The header fields of a response. -/
def headers {α : Type} (r : Response α) : Headers := r.parts.headers

/-- A response that is made without a reply. -/
def ofBody {α : Type} (body : α) : Response α := ⟨{}, body⟩

end Response

end BalancerClient
