import BalancerClient.Session.Stub

/-!
# Clients

A client stands in front of a stub.  A call is begun on the client with a request, put
together step by step by a builder, and sent; it reaches the stub through an interface, and
every function on the way hands on the request and the options.

## Main definitions

* `Client` - a client; `Client.ofStub` makes one from a stub.
* `PendingCall` - a call being put together on a client, with `PendingCall.apply` and
  `PendingCall.send`.
* `Plan` - how a call is put together; `Client.carryOut` does so, `Client.carryOutAll` for
  several calls.

## Main statements

* `Client.carryOutAll_ofStub` - the stub behind a client is handed the calls of the plans.
-/

namespace BalancerClient

variable {σ : Type}

/-- A client: what answers its calls. -/
structure Client (σ : Type) where
  stub : Stub σ

/-- The client of a stub. -/
def Client.ofStub (stub : Stub σ) : Client σ := ⟨stub.through .ofInterface⟩

/-- A call being put together on a client. -/
structure PendingCall (σ : Type) (op : Operation) where
  client : Client σ
  /-- The name of the builder. -/
  kind : String
  builder : CallBuilder op

namespace PendingCall

variable {op : Operation}

/-- The call after a step. -/
def apply (p : PendingCall σ op) (step : CallBuilder.Step op) : PendingCall σ op :=
  { p with builder := p.builder.apply step }

/-- Sends the call to the function of the stub that the builder calls. -/
def send (p : PendingCall σ op) (s : σ) : Except Unprovided (Answer op × σ) :=
  let handle? := do
    let name ← Layer.ofBuilders.lookup p.kind
    p.client.stub.invoke? name op p.builder.request p.builder.options
  match handle? with
  | some handle => .ok (handle s)
  | none => .error ⟨op⟩

/-- Steps change the call and neither the client nor the builder. -/
theorem foldl_apply (p : PendingCall σ op) (steps : List (CallBuilder.Step op)) :
    steps.foldl apply p = ⟨p.client, p.kind, steps.foldl CallBuilder.apply p.builder⟩ := by
  induction steps generalizing p with
  | nil => rfl
  | cons step rest ih => rw [List.foldl_cons, ih, List.foldl_cons, apply]

/-- The builder of an operation hands over its call. -/
theorem send_action (client : Client σ) (builder : CallBuilder op) (s : σ) :
    (⟨client, op.action, builder⟩ : PendingCall σ op).send s =
      client.stub.perform builder.call s := by
  have hinvoke : client.stub.invoke? op.label op builder.request builder.options =
      client.stub.handle? builder.call := client.stub.invoke?_label builder.call
  simp only [send, Layer.lookup_ofBuilders, Option.bind_eq_bind, Option.bind_some, hinvoke,
    Stub.perform]
  cases client.stub.handle? builder.call <;> rfl

end PendingCall

/-- How a call is put together: the operation, the request that it begins with, and the
steps. -/
structure Plan where
  operation : Operation
  request : Message operation.request
  steps : List (CallBuilder.Step operation) := []

/-- The call that comes of a plan. -/
def Plan.call (plan : Plan) : Call :=
  CallBuilder.call (plan.steps.foldl CallBuilder.apply { request := plan.request })

namespace Client

/-- Begins a call of an operation with a request, with the builder that the client's function
makes. -/
def begin? (client : Client σ) (op : Operation) (request : Message op.request) :
    Option (PendingCall σ op) := do
  let kind ← Layer.ofClient.lookup op.label
  return ⟨client, kind, { request }⟩

/-- Puts a call together and sends it. -/
def carryOut (client : Client σ) (plan : Plan) (s : σ) :
    Except Unprovided (Answer plan.operation × σ) :=
  match client.begin? plan.operation plan.request with
  | some pending => (plan.steps.foldl PendingCall.apply pending).send s
  | none => .error ⟨plan.operation⟩

/-- Puts calls together and sends them, one after the other. -/
def carryOutAll (client : Client σ) (s : σ) :
    List Plan → Except Unprovided (List (Performed σ))
  | [] => .ok []
  | plan :: rest =>
    match client.carryOut plan s with
    | .error mistake => .error mistake
    | .ok (answer, after) =>
      (client.carryOutAll after rest).map (⟨plan.call, answer, s, after⟩ :: ·)

/-- The stub behind a client is handed the call of the plan. -/
theorem carryOut_ofStub (stub : Stub σ) (plan : Plan) (s : σ) :
    (ofStub stub).carryOut plan s = stub.perform plan.call s := by
  have hbegin : (ofStub stub).begin? plan.operation plan.request =
      some ⟨⟨stub⟩, plan.operation.action, { request := plan.request }⟩ := by
    rw [begin?, Layer.lookup_ofClient, ofStub, stub.through_eq Layer.lookup_ofInterface]
    rfl
  rw [carryOut, hbegin]
  simp only [PendingCall.foldl_apply, PendingCall.send_action]
  rfl

/-- The stub behind a client is handed the calls of the plans. -/
theorem carryOutAll_ofStub (stub : Stub σ) (s : σ) (plans : List Plan) :
    (ofStub stub).carryOutAll s plans = stub.performAll s (plans.map Plan.call) := by
  induction plans generalizing s with
  | nil => rfl
  | cons plan rest ih =>
    rw [carryOutAll, carryOut_ofStub, List.map_cons, Stub.performAll]
    cases stub.perform plan.call s with
    | error mistake => rfl
    | ok result =>
      simp only [ih]

end Client

end BalancerClient
