import BalancerClient.Catalog.Operations
import BalancerClient.Proofs.Message.Encode
import BalancerClient.Proofs.Message.Settings

/-!
# The message types of the service are well named

All message types are checked once, by evaluation over their list: their wire names are fit
for names of parameters and their labels for names of setters, and they nest far less deep
than a JSON text may.  The types of the operations are among them.

## Main statements

* `Catalog.isReadable` - every message type is well named and not too deep.
* `Catalog.isWellLabelled` - every message type has a setter for each field.
* `Operation.isWellNamed_request`, `Operation.depth_request_le` - so is every request type.
-/

namespace BalancerClient

/-- The wire names of every message type are fit for parameters, and its objects are not too
deep to be read. -/
theorem Catalog.isReadable {type : MessageType} (h : type ∈ types) :
    type.shape.isWellNamed = true ∧ type.shape.depth < Json.maxNesting := by
  have hall : types.all (fun type =>
      type.shape.isWellNamed && decide (type.shape.depth < Json.maxNesting)) = true := by
    decide +kernel
  simpa using List.all_eq_true.1 hall type h

example : Catalog.types.length = 74 := rfl

/-- The labels of every message type are fit for names of setters. -/
theorem Catalog.isWellLabelled {type : MessageType} (h : type ∈ types) :
    type.shape.isWellLabelled = true := by
  have hall : types.all (fun type => type.shape.isWellLabelled) = true := by decide +kernel
  exact List.all_eq_true.1 hall type h

namespace Operation

theorem request_mem_types (op : Operation) : op.request ∈ Catalog.types := by
  cases op <;> simp [request, Catalog.types]

/-- The wire names of every request type, and of the types inside it, are fit for
parameters. -/
theorem isWellNamed_request (op : Operation) : op.request.shape.isWellNamed = true :=
  (Catalog.isReadable op.request_mem_types).1

theorem depth_request_le (op : Operation) : op.request.shape.depth ≤ Json.maxNesting :=
  (Catalog.isReadable op.request_mem_types).2.le

end Operation

end BalancerClient
