import BalancerClient.Exchange.Attempt

/-!
# Traces of calls

A client reports every request that it is about to send, with the number of its parameters.  A
traced client also reports when a call begins and when it returns.

## Main definitions

* `TraceEvent` - one report.
* `Attempt.trace` - the reports of an attempt.
* `surround` - the reports of a traced call.
-/

namespace BalancerClient

/-- A report of a client. -/
inductive TraceEvent where
  | entered (label : String)
  | sending (action : String) (method : Method) (query body : Nat)
  | returned
  deriving DecidableEq, Repr

/-- What is reported of a request that is about to be sent. -/
def WireRequest.sending (w : WireRequest) : TraceEvent :=
  .sending w.descriptor.action w.descriptor.method w.query.size w.body.size

/-- The reports of an attempt. -/
def Attempt.trace : Attempt → List TraceEvent
  | ready wire _ _ => [wire.sending]
  | _ => []

/-- The reports of a call with a label, around those of what it does. -/
def surround (label : String) (inner : List TraceEvent) : List TraceEvent :=
  .entered label :: inner ++ [.returned]

end BalancerClient
