import BalancerClient.Exchange.Network
import BalancerClient.Exchange.Trace
import BalancerClient.Message.Constraints
import BalancerClient.Message.Encode
import BalancerClient.Session.Stub

/-!
# The stub of the network

Calls go over a connection: the request of a call is checked against the constraints of its
type, written as JSON and sent as the descriptor says that the function of the operation
names, and the reply is read as the operation's reply type.  A traced stub hands calls on to
another and reports where each begins and ends.

## Main definitions

* `World` - the network and the records of what has happened.
* `Connection.attempt` - the preparations of a call.
* `Connection.stub`, `Stub.traced` - the stub of the network, and a stub with traces.
-/

namespace BalancerClient

/-- The network that calls go over, what has been signed and what has been reported. -/
structure World where
  network : Network
  signed : List SigningRequest := []
  trace : List TraceEvent := []

/-- Carries out an attempt and keeps the records. -/
def Attempt.run {α : Type} (reader : BodyReader α) (a : Attempt) (w : World) :
    Except Error (Response α) × World :=
  let (result, network) := a.perform reader w.network
  (result, ⟨network, w.signed ++ a.signed, w.trace ++ a.trace⟩)

namespace Connection

/-- The preparations of a call with a descriptor. -/
def attemptAs (c : Connection) (stamp : Stamp) (d : Descriptor) (call : Call) : Attempt :=
  c.prepare stamp d (call.operation.request.shape.checks call.request) call.request.toJson
    call.options

/-- The preparations of a call. -/
def attempt (c : Connection) (stamp : Stamp) (call : Call) : Attempt :=
  c.attemptAs stamp call.operation.descriptor call

/-- The stub whose calls go over a connection. -/
def stub (c : Connection) (stamp : Stamp) : Stub World where
  handle? call := do
    let name ← Layer.ofTransport.lookup call.operation.label
    let d ← Operation.descriptors.lookup name
    return (c.attemptAs stamp d call).run call.operation.response.reader

/-- A call goes out with the descriptor of its operation. -/
theorem handle?_stub (c : Connection) (stamp : Stamp) (call : Call) :
    (c.stub stamp).handle? call =
      some ((c.attempt stamp call).run call.operation.response.reader) := by
  simp only [stub, Layer.lookup_ofTransport, Operation.lookup_descriptors,
    Option.bind_eq_bind, Option.bind_some, Option.pure_def]
  rfl

end Connection

/-- The stub that hands calls on to another and reports where each begins and ends. -/
def Stub.traced (stub : Stub World) : Stub World where
  handle? call :=
    ((stub.through .ofTraces).handle? call).map fun handle w =>
      let (answer, after) := handle { w with trace := [] }
      (answer, { after with trace := w.trace ++ surround call.operation.label after.trace })

/-- The stub of a client with the given settings. -/
def Connection.stubFor (c : Connection) (stamp : Stamp) (s : Settings) (env : Environment) :
    Stub World :=
  if s.isTraced env then (c.stub stamp).traced else c.stub stamp

end BalancerClient
