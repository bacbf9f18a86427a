import BalancerClient.Proofs.Session.Sendable

/-!
# One request for each call that can be sent

A client carries out calls one after the other over one network, and asks its provider of
credentials, who may keep a state, about those that are in order.  A call that can be sent
takes its request to the server, and with it the requests that the replies lead to; each of
them spends one reply, and the last decides the answer.  If no reply points elsewhere, that is
one request and one reply for each of these calls, in their order.  A call that cannot be sent
fails on the spot, and the server neither sees it nor spends a reply on it.

## Main definitions

* `Connection.exchangeAll` - calls one after the other, each with a date and a nonce of its
  own.
* `Connection.Settles` - what one call comes to at a server with so many replies left.
* `Connection.KeepsLedger` - what becomes of a list of calls.

## Main statements

* `Connection.settle_settles` - what a single call comes to.
* `Connection.exchangeAll_keepsLedger` - what a list of calls comes to.
* `Stub.GoesOver.performAll` - a stub that goes over the connection carries out calls so.
-/

namespace BalancerClient

/-- Two scenes differ at most in what has been asked. -/
def Scene.Same {σ : Type} (x y : Scene σ) : Prop := x.state = y.state ∧ x.network = y.network

namespace Connection

section Providers

variable {σ : Type}

/-! ## Calls one after the other -/

/-- Carries out calls one after the other, each with its date and nonce. -/
def exchangeAll (c : Connection) (provider : Provider σ) :
    List (Stamp × Call) → Scene σ → List (Outcome σ) × Scene σ
  | [], x => ([], x)
  | (stamp, call) :: rest, x =>
    let (outcome, y) := c.settle provider stamp call x
    let (outcomes, last) := c.exchangeAll provider rest y
    (outcome :: outcomes, last)

/-- Whether what has become of a call is that of a call that could be sent. -/
def sends (c : Connection) (provider : Provider σ) (o : Outcome σ) : Bool :=
  decide (c.IsSendable provider o.stamp o.call o.before)

variable {c : Connection} {provider : Provider σ} {stamp : Stamp} {call : Call} {x : Scene σ}

theorem sends_iff {o : Outcome σ} :
    c.sends provider o = true ↔ c.IsSendable provider o.stamp o.call o.before :=
      decide_eq_true_iff

/-! ## A server that replies -/

/-- What a call comes to at a server with these replies left. -/
structure Settles (c : Connection) (provider : Provider σ)
    (next? : HttpRequest → HttpReply → Option HttpRequest) (replies : List HttpReply)
      (o : Outcome σ) :
    Prop where
  /-- A call that can be sent takes its request to the server and those that the replies lead
  to, and what comes of the last of them decides the answer. -/
  sent : c.IsSendable provider o.stamp o.call o.before → ∃ request delivery,
    c.Shapes provider o.stamp o.call o.before request ∧
      Network.Leads next? Network.maxOnward request replies o.arrived delivery ∧
      o.answer = delivery.read o.call.operation.response.reader
  /-- Every other call fails with its own error, and nothing arrives.  If it fails before the
  provider is asked, the provider stays as it is. -/
  refused : ¬ c.IsSendable provider o.stamp o.call o.before → o.arrived = [] ∧
    ∃ e, c.Refuses provider o.stamp o.call o.before e ∧ o.answer = .error e ∧
      (e.isValidation = true ∨ e.isSerialization = true → o.after = o.before)

/-- A call takes as many replies as requests arrive because of it. -/
theorem settle_settles {replies : List HttpReply} (hn : x.network.Replies replies)
    (provider : Provider σ) (stamp : Stamp) (call : Call) :
    ∃ o y, c.settle provider stamp call x = (o, y) ∧
      (o.stamp, o.call) = (stamp, call) ∧ c.Settles provider x.network.next? replies o ∧
      y.network.Replies (replies.drop o.arrived.length) ∧ y.network.next? = x.network.next? ∧
      y.network.received = x.network.received ++ o.arrived := by
  rcases c.isSendable_or_refuses provider stamp call x.state with
    ⟨request, hshapes⟩ | ⟨e, hrefuses⟩
  · obtain ⟨y, hsettle, hnetwork⟩ := settle_of_shapes hshapes
    obtain ⟨arrived, hleads, hreplies, hnext, hreceived⟩ := hn.leads_deliver request
    rw [hreceived, List.drop_left] at hsettle
    rw [← hnetwork] at hreplies hnext hreceived
    refine ⟨_, y, hsettle, rfl, ⟨?_, ?_⟩, hreplies, hnext, hreceived⟩
    · intro _
      exact ⟨request, _, hshapes, hleads, rfl⟩
    · intro hnot
      exact absurd ⟨request, hshapes⟩ hnot
  · obtain ⟨y, hsettle, hnetwork, hstate⟩ := settle_of_refuses hrefuses
    refine ⟨_, y, hsettle, rfl, ⟨?_, ?_⟩, ?_, ?_, ?_⟩
    · intro hsendable
      exact absurd hrefuses (not_refuses_of_isSendable hsendable e)
    · intro _
      exact ⟨rfl, e, hrefuses, rfl, hstate⟩
    · rw [hnetwork]
      exact hn
    · rw [hnetwork]
    · rw [hnetwork, List.append_nil]

theorem exchangeAll_cons (rest : List (Stamp × Call)) {o : Outcome σ} {y : Scene σ}
    (h : c.settle provider stamp call x = (o, y)) :
    c.exchangeAll provider ((stamp, call) :: rest) x =
      (o :: (c.exchangeAll provider rest y).1, (c.exchangeAll provider rest y).2) := by
  rw [exchangeAll, h]

variable {replies : List HttpReply}

/-- The outcomes are those of the calls, in their order. -/
theorem map_exchangeAll (provider : Provider σ) (calls : List (Stamp × Call)) (x : Scene σ) :
    (c.exchangeAll provider calls x).1.map (fun o => (o.stamp, o.call)) = calls := by
  induction calls generalizing x with
  | nil => rfl
  | cons call rest ih =>
    rw [exchangeAll_cons rest Prod.mk.eta.symm, List.map_cons, ih]
    rfl

/-- The requests that arrive are those of the calls, in their order. -/
theorem received_exchangeAll (hn : x.network.Replies replies) (provider : Provider σ)
    (calls : List (Stamp × Call)) : (c.exchangeAll provider calls x).2.network.received =
      x.network.received ++ (c.exchangeAll provider calls x).1.flatMap Outcome.arrived := by
  induction calls generalizing x replies with
  | nil => exact (List.append_nil _).symm
  | cons call rest ih =>
    obtain ⟨o, y, hsettle, -, -, hreplies, -, hreceived⟩ :=
      settle_settles hn provider call.1 call.2
    rw [exchangeAll_cons rest hsettle, ih hreplies, hreceived, List.flatMap_cons,
      List.append_assoc]

/-- Each call meets the replies that those before it have left. -/
theorem settles_exchangeAll (hn : x.network.Replies replies) {calls : List (Stamp × Call)}
    {before after : List (Outcome σ)} {o : Outcome σ}
    (h : (c.exchangeAll provider calls x).1 = before ++ o :: after) :
    c.Settles provider x.network.next? (replies.drop (before.flatMap Outcome.arrived).length)
      o := by
  induction calls generalizing x replies before with
  | nil => simp [exchangeAll] at h
  | cons call rest ih =>
    obtain ⟨first, y, hsettle, -, hsettles, hreplies, hnext, -⟩ :=
      settle_settles hn provider call.1 call.2
    rw [exchangeAll_cons rest hsettle] at h
    cases before with
    | nil =>
      obtain rfl : first = o := (List.cons.inj h).1
      exact hsettles
    | cons first' before =>
      obtain ⟨rfl, hrest⟩ := List.cons.inj h
      have hlast := ih hreplies hrest
      rwa [hnext, List.drop_drop, ← List.length_append, ← List.flatMap_cons] at hlast

/-! ## Without replies that point elsewhere -/

/-- A call that can be sent takes one request to the server and one reply from it. -/
theorem Settles.of_direct {next? : HttpRequest → HttpReply → Option HttpRequest}
    {o : Outcome σ} (h : c.Settles provider next? replies o)
    (hdirect : Network.AllDirect replies)
    (hsends : c.IsSendable provider o.stamp o.call o.before) :
    (∃ request, c.Shapes provider o.stamp o.call o.before request ∧ o.arrived = [request]) ∧
      o.answer = (replies.headD .plain).read o.call.operation.response.reader := by
  obtain ⟨request, delivery, hshapes, hleads, hanswer⟩ := h.sent hsends
  obtain ⟨harrived, rfl⟩ := hleads.of_direct hdirect.headD
  exact ⟨⟨request, hshapes, harrived⟩, hanswer⟩

/-- One request arrives for each of the calls that can be sent. -/
theorem forall₂_shapes {outcomes : List (Outcome σ)}
    (h : ∀ o ∈ outcomes, if c.sends provider o then
      ∃ request, c.Shapes provider o.stamp o.call o.before request ∧ o.arrived = [request]
      else o.arrived = []) :
    List.Forall₂ (fun o request => c.Shapes provider o.stamp o.call o.before request)
      (outcomes.filter (c.sends provider)) (outcomes.flatMap Outcome.arrived) := by
  induction outcomes with
  | nil => exact .nil
  | cons o rest ih =>
    obtain ⟨ho, hrest⟩ := List.forall_mem_cons.1 h
    rw [List.flatMap_cons]
    by_cases hsends : c.sends provider o = true
    · rw [if_pos hsends] at ho
      obtain ⟨request, hshapes, harrived⟩ := ho
      rw [List.filter_cons_of_pos hsends, harrived, List.singleton_append]
      exact .cons hshapes (ih hrest)
    · rw [if_neg hsends] at ho
      rw [List.filter_cons_of_neg hsends, ho, List.nil_append]
      exact ih hrest

/-- What each of the calls has taken to the server. -/
theorem arrived_of_direct (hn : x.network.Replies replies)
    (hdirect : Network.AllDirect replies) {calls : List (Stamp × Call)} {o : Outcome σ}
    (ho : o ∈ (c.exchangeAll provider calls x).1) :
    if c.sends provider o then
      ∃ request, c.Shapes provider o.stamp o.call o.before request ∧ o.arrived = [request]
    else o.arrived = [] := by
  obtain ⟨before, after, hsplit⟩ := List.append_of_mem ho
  have hsettles := settles_exchangeAll hn hsplit
  split
  · next hsends => exact (hsettles.of_direct (hdirect.drop _) (sends_iff.1 hsends)).1
  · next hsends => exact (hsettles.refused (mt sends_iff.2 hsends)).1

/-! ## Calls that are left out -/

/-- What has been asked before has no influence. -/
theorem execute_congr (c : Connection) (provider : Provider σ) (stamp : Stamp)
    (d : Descriptor) (r : RequestObject) (o : RequestOptions) {α : Type}
    (reader : BodyReader α) (s : σ) (n : Network)
    (asked asked' : List SigningRequest) :
    (c.execute provider stamp d r o reader ⟨s, asked, n⟩).1 =
        (c.execute provider stamp d r o reader ⟨s, asked', n⟩).1 ∧
      (c.execute provider stamp d r o reader ⟨s, asked, n⟩).2.state =
        (c.execute provider stamp d r o reader ⟨s, asked', n⟩).2.state ∧
      (c.execute provider stamp d r o reader ⟨s, asked, n⟩).2.network =
        (c.execute provider stamp d r o reader ⟨s, asked', n⟩).2.network := by
  simp only [execute]
  cases Check.validate r.checks with
  | error e => exact ⟨rfl, rfl, rfl⟩
  | ok _ =>
    cases r.wireForm d with
    | error e => exact ⟨rfl, rfl, rfl⟩
    | ok w =>
      simp only [send]
      cases c.libraryHeaders stamp w.descriptor o with
      | error e => exact ⟨rfl, rfl, rfl⟩
      | ok headers =>
        simp only [Provider.ask]
        cases (provider.headers (signing w headers) s).1 with
        | error e => exact ⟨rfl, rfl, rfl⟩
        | ok fields =>
          simp only [exchange]
          cases c.httpRequest? w (headers.override fields) <;> exact ⟨rfl, rfl, rfl⟩

/-- A call comes to the same in scenes that are the same. -/
theorem settle_congr {y : Scene σ} (h : Scene.Same x y) (c : Connection)
    (provider : Provider σ) (stamp : Stamp) (call : Call) :
    (c.settle provider stamp call x).1 = (c.settle provider stamp call y).1 ∧
      Scene.Same (c.settle provider stamp call x).2 (c.settle provider stamp call y).2 := by
  obtain ⟨s, asked, n⟩ := x
  obtain ⟨s', asked', n'⟩ := y
  obtain ⟨rfl, rfl⟩ : s = s' ∧ n = n' := h
  obtain ⟨hanswer, hstate, hnetwork⟩ :=
    execute_congr c provider stamp call.operation.descriptor
    call.object call.options call.operation.response.reader s n asked asked'
  refine ⟨?_, hstate, hnetwork⟩
  simp only [settle, hanswer, hstate, hnetwork]

/-- What has become of a call that left no trace: it could not be sent, and the provider has
stayed as it was. -/
def IsLost (c : Connection) (provider : Provider σ) (o : Outcome σ) : Prop :=
  ¬ c.IsSendable provider o.stamp o.call o.before ∧ o.after = o.before

/-- Calls that leave no trace can be left out: the others come to the same. -/
theorem exchangeAll_filter {marked : List (Bool × Stamp × Call)} {x y : Scene σ}
    (hsame : Scene.Same x y)
    (h : ∀ m ∈ marked.zip (c.exchangeAll provider (marked.map Prod.snd) y).1,
      m.1.1 = false → c.IsLost provider m.2) :
    (c.exchangeAll provider ((marked.filter Prod.fst).map Prod.snd) x).1 =
        ((marked.zip (c.exchangeAll provider (marked.map Prod.snd) y).1).filter
          (·.1.1)).map Prod.snd ∧
      Scene.Same (c.exchangeAll provider ((marked.filter Prod.fst).map Prod.snd) x).2
        (c.exchangeAll provider (marked.map Prod.snd) y).2 := by
  induction marked generalizing x y with
  | nil => exact ⟨rfl, hsame⟩
  | cons mark rest ih =>
    obtain ⟨kept, stamp, call⟩ := mark
    rw [List.map_cons, exchangeAll_cons _ Prod.mk.eta.symm, List.zip_cons_cons] at h
    obtain ⟨hfirst, hrest⟩ := List.forall_mem_cons.1 h
    rw [List.map_cons, exchangeAll_cons _ Prod.mk.eta.symm, List.zip_cons_cons]
    cases kept with
    | true =>
      obtain ⟨houtcome, hafter⟩ := settle_congr hsame c provider stamp call
      obtain ⟨houtcomes, hlast⟩ := ih hafter hrest
      rw [List.filter_cons_of_pos rfl, List.map_cons, exchangeAll_cons _ Prod.mk.eta.symm,
        houtcome, houtcomes, List.filter_cons_of_pos rfl]
      exact ⟨rfl, hlast⟩
    | false =>
      obtain ⟨hnot, hstate⟩ := hfirst rfl
      obtain ⟨e, hrefuses⟩ :=
        (c.isSendable_or_refuses provider stamp call y.state).resolve_left hnot
      obtain ⟨z, hsettle, hnetwork, -⟩ := settle_of_refuses hrefuses
      rw [hsettle] at hstate hrest ⊢
      have hafter : Scene.Same x z := ⟨hsame.1.trans hstate.symm, hsame.2.trans hnetwork.symm⟩
      rw [List.filter_cons_of_neg (by simp), List.filter_cons_of_neg (by simp)]
      exact ih hafter hrest

/-! ## The ledger -/

/-- What becomes of calls on one client, over a network whose server has these replies. -/
structure KeepsLedger (c : Connection) (provider : Provider σ) (x : Scene σ)
    (replies : List HttpReply) (calls : List (Stamp × Call)) : Prop where
  /-- Each call has an outcome, in the order of the calls. -/
  listed : (c.exchangeAll provider calls x).1.map (fun o => (o.stamp, o.call)) = calls
  /-- The requests that arrive are those of the outcomes, in their order. -/
  received : (c.exchangeAll provider calls x).2.network.received =
    x.network.received ++ (c.exchangeAll provider calls x).1.flatMap Outcome.arrived
  /-- Each call meets the replies that those before it have left, one having gone for each
  request. -/
  settled : ∀ before o after, (c.exchangeAll provider calls x).1 = before ++ o :: after →
    c.Settles provider x.network.next?
      (replies.drop (before.flatMap Outcome.arrived).length) o
  /-- If no reply points elsewhere, one request arrives for each call that can be sent, in the
  order of these calls. -/
  oneEach : Network.AllDirect replies → ∃ requests,
    (c.exchangeAll provider calls x).2.network.received = x.network.received ++ requests ∧
      List.Forall₂ (fun o request => c.Shapes provider o.stamp o.call o.before request)
        ((c.exchangeAll provider calls x).1.filter (c.sends provider)) requests
  /-- The n-th of the calls that can be sent is then answered by the n-th reply, and by
  nothing else. -/
  oneReply : Network.AllDirect replies → ∀ before o after,
    (c.exchangeAll provider calls x).1 = before ++ o :: after →
    c.IsSendable provider o.stamp o.call o.before →
    (∃ request, c.Shapes provider o.stamp o.call o.before request ∧ o.arrived = [request]) ∧
      o.answer = (replies.getD (before.countP (c.sends provider)) .plain).read
        o.call.operation.response.reader
  /-- Without any of the calls that cannot be sent and leave the provider as it was, the
  others come to the same, and so do the network and the provider. -/
  leftOut : ∀ marked : List (Bool × Stamp × Call), marked.map Prod.snd = calls →
    (∀ m ∈ marked.zip (c.exchangeAll provider calls x).1, m.1.1 = false →
      c.IsLost provider m.2) →
    (c.exchangeAll provider ((marked.filter Prod.fst).map Prod.snd) x).1 =
        ((marked.zip (c.exchangeAll provider calls x).1).filter (·.1.1)).map Prod.snd ∧
      Scene.Same (c.exchangeAll provider ((marked.filter Prod.fst).map Prod.snd) x).2
        (c.exchangeAll provider calls x).2

theorem keepsLedger (c : Connection) (provider : Provider σ) {x : Scene σ}
    {replies : List HttpReply} (hn : x.network.Replies replies)
    (calls : List (Stamp × Call)) : c.KeepsLedger provider x replies calls where
  listed := map_exchangeAll provider calls x
  received := received_exchangeAll hn provider calls
  settled before o after h := settles_exchangeAll hn h
  oneEach := by
    intro hdirect
    refine ⟨_, received_exchangeAll hn provider calls, forall₂_shapes ?_⟩
    intro o ho
    exact arrived_of_direct hn hdirect ho
  oneReply := by
    intro hdirect before o after hsplit hsends
    have hcount : (before.flatMap Outcome.arrived).length =
        before.countP (c.sends provider) := by
      have hbefore : ∀ o' ∈ before, if c.sends provider o' then
          ∃ request, c.Shapes provider o'.stamp o'.call o'.before request ∧
            o'.arrived = [request]
          else o'.arrived = [] := by
        intro o' ho'
        apply arrived_of_direct hn hdirect
        rw [hsplit]
        exact List.mem_append_left _ ho'
      have hshapes := forall₂_shapes hbefore
      rw [← hshapes.length_eq, List.countP_eq_length_filter]
    have hsettles := settles_exchangeAll hn hsplit
    rw [hcount] at hsettles
    obtain ⟨hrequest, hanswer⟩ := hsettles.of_direct (hdirect.drop _) hsends
    refine ⟨hrequest, ?_⟩
    rw [hanswer, List.headD_eq_head?_getD, List.head?_drop, List.getD_eq_getElem?_getD]
  leftOut := by
    intro marked hcalls hlost
    subst hcalls
    exact exchangeAll_filter ⟨rfl, rfl⟩ hlost

end Providers

end Connection

/-! ## The stub of a client -/

/-- What a performed call comes to. -/
def Performed.outcome (stamp : Stamp) (p : Performed World) : Outcome Unit :=
  ⟨stamp, p.call, p.answer, p.after.network.received.drop p.before.network.received.length,
    (), ()⟩

/-- A stub carries out calls over a connection. -/
def Stub.GoesOver (stub : Stub World) (c : Connection) (stamp : Stamp) : Prop :=
  ∀ call w, ∃ answer after, stub.perform call w = .ok (answer, after) ∧
    (c.attempt stamp call).perform call.operation.response.reader w.network =
      (answer, after.network)

/-- A call over a connection comes to what its attempt does, with the provider of the
connection. -/
theorem Connection.settle_of_attempt {c : Connection} {stamp : Stamp} {call : Call}
    {x : Scene Unit} {answer : Answer call.operation} {n : Network}
    (h : (c.attempt stamp call).perform call.operation.response.reader x.network =
      (answer, n)) :
    ∃ y, c.settle (.ofCredentials c.credentials) stamp call x =
        (⟨stamp, call, answer, n.received.drop x.network.received.length, (), ()⟩, y) ∧
      y.network = n := by
  have hscene :=
    (c.execute_failsInOrder stamp call.operation.descriptor call.object call.options).run
    rfl call.operation.response.reader ⟨x.network, x.asked, []⟩
  have hattempt :
      c.prepare stamp call.operation.descriptor call.object.checks call.request.toJson
      call.options = c.attempt stamp call := rfl
  rw [hattempt, Attempt.run, h] at hscene
  exact ⟨_, settle_eq hscene, rfl⟩

namespace Stub.GoesOver

variable {c : Connection} {stamp : Stamp} {stub : Stub World}

/-- Traces change nothing of what goes over the connection. -/
theorem traced (h : stub.GoesOver c stamp) : stub.traced.GoesOver c stamp := by
  intro call w
  obtain ⟨answer, after, hperform, hattempt⟩ := h call { w with trace := [] }
  rw [Stub.perform] at hperform
  cases hhandle : stub.handle? call with
  | none =>
    rw [hhandle] at hperform
    cases hperform
  | some handle =>
    rw [hhandle] at hperform
    have hhandled : handle { w with trace := [] } = (answer, after) := Except.ok.inj hperform
    refine ⟨answer,
      { after with trace := w.trace ++ surround call.operation.label after.trace }, ?_,
      hattempt⟩
    simp only [Stub.perform, Stub.traced, stub.through_eq Layer.lookup_ofTraces, hhandle,
      Option.map_some, hhandled]

/-- A stub that goes over a connection carries out calls one after the other. -/
theorem performAll (h : stub.GoesOver c stamp) (w : World) (calls : List Call)
    {x : Scene Unit} (hx : x.network = w.network) :
    ∃ performed, stub.performAll w calls = .ok performed ∧
      performed.map (Performed.outcome stamp) =
        (c.exchangeAll (.ofCredentials c.credentials) (calls.map (stamp, ·)) x).1 := by
  induction calls generalizing w x with
  | nil => exact ⟨[], rfl, rfl⟩
  | cons call rest ih =>
    obtain ⟨answer, after, hperform, hattempt⟩ := h call w
    rw [← hx] at hattempt
    obtain ⟨y, hsettle, hy⟩ := Connection.settle_of_attempt hattempt
    obtain ⟨performed, hrest, houtcomes⟩ := ih after hy
    refine ⟨⟨call, answer, w, after⟩ :: performed, ?_, ?_⟩
    · rw [Stub.performAll, hperform]
      simp only [hrest, Except.map]
    · rw [List.map_cons, List.map_cons, houtcomes, Connection.exchangeAll_cons _ hsettle, hx]
      rfl

end Stub.GoesOver

namespace Connection

/-- The stub of a client goes over its connection, with traces or without. -/
theorem goesOver_stubFor (c : Connection) (stamp : Stamp) (s : Settings) (env : Environment) :
    (c.stubFor stamp s env).GoesOver c stamp := by
  have hstub : (c.stub stamp).GoesOver c stamp := by
    intro call w
    refine ⟨((c.attempt stamp call).run call.operation.response.reader w).1,
      ((c.attempt stamp call).run call.operation.response.reader w).2, ?_, rfl⟩
    rw [Stub.perform, handle?_stub]
  rw [stubFor]
  split
  · exact hstub.traced
  · exact hstub

/-- Over a network that delivers every request and always replies, calls keep the ledger,
whatever the provider of credentials is; and the stub of a client comes to the same with the
provider that it has. -/
theorem exchangeAll_keepsLedger (c : Connection) :
    (∀ {σ : Type} (provider : Provider σ) (x : Scene σ) (replies : List HttpReply)
      (calls : List (Stamp × Call)), x.network.Replies replies →
      c.KeepsLedger provider x replies calls) ∧
    ∀ (stamp : Stamp) (s : Settings) (env : Environment) (w : World) (calls : List Call),
      ∃ performed, (c.stubFor stamp s env).performAll w calls = .ok performed ∧
        performed.map (Performed.outcome stamp) =
          (c.exchangeAll (.ofCredentials c.credentials) (calls.map (stamp, ·))
            w.scene).1 := by
  constructor
  · intro σ provider x replies calls hn
    exact c.keepsLedger provider hn calls
  · intro stamp s env w calls
    exact (c.goesOver_stubFor stamp s env).performAll w calls rfl

/-- A provider that refuses the first request, a call without a required field, and two calls
that can be sent; the reply to the first of them points elsewhere. -/
theorem exchangeAll_keepsLedger_of_four_calls :
    let c : Connection := ⟨"http://127.0.0.1:1", "agent", .anonymous⟩
    let stamp : Stamp := ⟨"date", "nonce", by decide, by decide⟩
    let late : CredentialsError := ⟨true, .stated "late"⟩
    let provider : Provider Nat := ⟨fun _ n => (if n = 0 then .error late else .ok {}, n + 1)⟩
    let regions : Call := ⟨.describeRegions, Operation.describeRegions.request.unset, {}⟩
    let job : Call := ⟨.getJobStatus, Operation.getJobStatus.request.unset, {}⟩
    let zones : Call := ⟨.describeZones, Operation.describeZones.request.unset, {}⟩
    let calls := [(stamp, zones), (stamp, job), (stamp, regions), (stamp, zones)]
    let moved : HttpReply := { status := 302, headers := ⟨[("location", "/there")]⟩ }
    let busy : HttpReply := { status := 503 }
    let x : Scene Nat :=
      { state := 0, network := .serving [.reply moved, .reply .plain, .reply busy] }
    x.network.Replies [moved, .plain, busy] ∧
      ∃ before last, (c.exchangeAll provider calls x).1 = before ++ [last] ∧
        before.map (·.arrived.length) = [0, 0, 2] ∧
        (c.exchangeAll provider calls x).2.network.received =
          before.flatMap Outcome.arrived ++ last.arrived ∧
        ∃ request, c.Shapes provider last.stamp last.call last.before request ∧
          last.arrived = [request] ∧ last.answer = .error busy.failure := by
  intro c stamp late provider regions job zones calls moved busy x
  have hn : x.network.Replies [moved, .plain, busy] := ⟨rfl, rfl⟩
  have hledger := (exchangeAll_keepsLedger c).1 provider x [moved, .plain, busy] calls hn
  have hlengths : (c.exchangeAll provider calls x).1.map (·.arrived.length) =
      [0, 0, 2] ++ [1] := by
    decide +kernel
  obtain ⟨before, rest, hsplit, hbefore, hrest⟩ := List.map_eq_append_iff.1 hlengths
  obtain ⟨last, rfl, hlast⟩ := List.map_eq_singleton_iff.1 hrest
  have hspent : (before.flatMap Outcome.arrived).length = 2 := by
    rw [List.length_flatMap, hbefore]
    rfl
  have hsettles := hledger.settled before last [] hsplit
  rw [hspent] at hsettles
  have hdirect : Network.AllDirect [busy] := Network.allDirect_singleton rfl
  have hsendable : c.IsSendable provider last.stamp last.call last.before := by
    by_contra hnot
    rw [(hsettles.refused hnot).1] at hlast
    cases hlast
  obtain ⟨⟨request, hshapes, harrived⟩, hanswer⟩ := hsettles.of_direct hdirect hsendable
  refine ⟨hn, before, last, hsplit, hbefore, ?_, request, hshapes, harrived, hanswer⟩
  rw [hledger.received, hsplit, List.flatMap_append, List.flatMap_singleton]
  rfl

/-- A request for a job, whatever its name, passes all preparations for an endpoint without a
user. -/
theorem prepares_job (name : String) (stamp : Stamp) :
    let c : Connection := ⟨"http://127.0.0.1:1", "agent", .anonymous⟩
    ∃ w headers, w.query.entries = [("JobId", name)] ∧
      c.Prepares (.ofCredentials .anonymous) stamp ⟨.getJobStatus, (some name, none, ()),
        {}⟩ () w headers {} := by
  intro c
  rcases c.libraryHeaders_cases stamp Operation.getJobStatus.descriptor {} with
    ⟨headers, hheaders, -⟩ | ⟨cause, -, hforbidden⟩
  · exact ⟨_, headers, rfl, ⟨rfl, rfl, hheaders, rfl⟩⟩
  · exact absurd hforbidden (by decide)

/-- Without the conditions of the ledger there may be more requests than calls that can be
sent, there may be none for a call that passes all preparations, and calls that cannot be sent
may matter to others. -/
theorem not_forall_oneRequest :
    (¬ ∀ (c : Connection) (provider : Provider Unit) (x : Scene Unit)
      (replies : List HttpReply) (calls : List (Stamp × Call)), x.network.Replies replies →
        (c.exchangeAll provider calls x).2.network.received.length =
          x.network.received.length +
            ((c.exchangeAll provider calls x).1.filter (c.sends provider)).length) ∧
      (¬ ∀ (c : Connection) (provider : Provider Unit) (stamp : Stamp) (call : Call)
        (w : WireRequest)
        (headers fields : Headers), c.Prepares provider stamp call () w headers fields →
        c.IsSendable provider stamp call ()) ∧
      ¬ ∀ (c : Connection) (provider : Provider Bool) (x : Scene Bool)
        (replies : List HttpReply)
        (marked : List (Bool × Stamp × Call)), x.network.Replies replies →
        (∀ m ∈ marked.zip (c.exchangeAll provider (marked.map Prod.snd) x).1, m.1.1 = false →
          ¬ c.IsSendable provider m.2.stamp m.2.call m.2.before) →
        (c.exchangeAll provider ((marked.filter Prod.fst).map Prod.snd) x).1.map
          Outcome.arrived =
          ((marked.zip (c.exchangeAll provider (marked.map Prod.snd) x).1).filter (·.1.1)).map
            (·.2.arrived) := by
  let c : Connection := ⟨"http://127.0.0.1:1", "agent", .anonymous⟩
  let stamp : Stamp := ⟨"date", "nonce", by decide, by decide⟩
  let zones : Call := ⟨.describeZones, Operation.describeZones.request.unset, {}⟩
  refine ⟨?_, ?_, ?_⟩
  · -- a reply that points elsewhere
    intro h
    let moved : HttpReply := { status := 302, headers := ⟨[("location", "/there")]⟩ }
    let x : Scene Unit := { state := (), network := .serving [.reply moved] }
    have hcount := h c (.ofCredentials .anonymous) x [moved] [(stamp, zones)] ⟨rfl, rfl⟩
    exact absurd hcount (by decide +kernel)
  · -- a URL that is too long
    intro h
    let long := String.ofList (List.replicate 65535 'a')
    obtain ⟨w, headers, hentries, hprepares⟩ := prepares_job long stamp
    have hsendable := h c _ stamp _ w headers {} hprepares
    apply not_refuses_of_isSendable hsendable .untakenUrl
    apply Refuses.untaken hprepares
    intro u _
    rw [hentries]
    apply u.isTaken_of_lt_length
    rw [String.toList_ofList, List.length_replicate]
    decide
  · -- a provider that refuses the first request only
    intro h
    let provider : Provider Bool :=
      ⟨fun _ asked => (if asked then .ok {} else .error ⟨true, .stated "late"⟩, true)⟩
    let x : Scene Bool := { state := false, network := .serving [] }
    have harrived :=
      h c provider x [] [(false, stamp, zones), (true, stamp, zones)] ⟨rfl, rfl⟩
      (by decide +kernel)
    have hlengths := congrArg (List.map List.length) harrived
    exact absurd hlengths (by decide +kernel)

end Connection

end BalancerClient
