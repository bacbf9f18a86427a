import BalancerClient.Catalog.Operations
import BalancerClient.Client.Options

/-!
# Calls

A call is an operation with a request and options.  It is put together step by step; setting
the options as a whole replaces what single settings have done before.

## Main definitions

* `Call` - a call.
* `CallBuilder` - a call being put together, with `CallBuilder.apply` for one step.
-/

namespace BalancerClient

/-- A call being put together, of an operation that is chosen already. -/
structure CallBuilder (op : Operation) where
  request : Message op.request
  options : RequestOptions := {}

namespace CallBuilder

/-- A step of putting a call together. -/
inductive Step (op : Operation) where
  | request (message : Message op.request)
  | options (all : RequestOptions)
  | option (one : RequestOptions.Step)

/-- The call after a step. -/
def apply {op : Operation} (b : CallBuilder op) : Step op → CallBuilder op
  | .request message => { b with request := message }
  | .options all => { b with options := all }
  | .option one => { b with options := b.options.apply one }

end CallBuilder

/-- A call. -/
structure Call where
  operation : Operation
  request : Message operation.request
  options : RequestOptions := {}

/-- The call that has been put together. -/
def CallBuilder.call {op : Operation} (b : CallBuilder op) : Call :=
  ⟨op, b.request, b.options⟩

end BalancerClient
