import BalancerClient.Exchange.Execute
import BalancerClient.Proofs.Exchange.Outcome
import BalancerClient.Proofs.Request.Sources

/-!
# Which failure counts

A request can fail in several ways at once before it is sent: its constraints are broken, it
cannot be written, a header value is not allowed, there are no credentials for it.  The first
of these counts, and what comes behind it does not happen.  So the provider of credentials is
asked about requests that are valid and can be written, once about each, and only requests
that are signed reach the network.

## Main definitions

* `Connection.CannotWrite` - a request cannot be written, or not with its header fields.
* `Connection.AsksOnce` - the provider is asked about a request once and decides what comes of
  it.
* `Connection.FailsInOrder` - which failure of a request counts.

## Main statements

* `Connection.send_asksOnce` - a request with its header fields is asked about once.
* `Connection.execute_scene` - preparing and running a request is executing it.
* `Connection.execute_failsInOrder` - every request fails in order.
-/

namespace BalancerClient

/-! ## Errors of deliveries -/

/-- An error of a request that does not leave: of its constraints, its writing or its
credentials. -/
def Error.IsLocal (e : Error) : Prop :=
  e.kind ∈ [Error.Kind.validation, .serialization, .authentication]

instance (e : Error) : Decidable e.IsLocal :=
  inferInstanceAs (Decidable (e.kind ∈ [Error.Kind.validation, .serialization,
    .authentication]))

section Deliveries

variable {α : Type} {reader : BodyReader α} {e : Error}

theorem HttpReply.not_isLocal_failure (r : HttpReply) : ¬ r.failure.IsLocal := by
  rw [failure]
  cases Status.ofPayload r.body with
  | ok status => simp [Error.IsLocal, Error.kind]
  | error fault => simp [Error.IsLocal, Error.kind]

theorem HttpReply.not_isLocal_of_success {r : HttpReply} (h : r.success reader = .error e) :
    ¬ e.IsLocal := by
  by_cases hbrings : ∃ body, r.Brings reader body
  · obtain ⟨body, hbody⟩ := hbrings
    rw [success_of_brings hbody] at h
    cases h
  · obtain ⟨error, herror, hunreadable⟩ := success_of_not_brings (not_exists.1 hbrings)
    obtain rfl := Except.error.inj (h.symm.trans herror)
    have hkind : e.kind = .deserialization := eq_of_beq hunreadable.isDeserialization
    rw [Error.IsLocal, hkind]
    decide

/-- What comes of a request that has left is no local error. -/
theorem Delivery.not_isLocal_of_read {delivery : Delivery}
    (h : delivery.read reader = .error e) : ¬ e.IsLocal := by
  cases delivery with
  | late =>
    obtain rfl := Except.error.inj h
    decide
  | broken =>
    obtain rfl := Except.error.inj h
    decide
  | reply r =>
    rw [read, HttpReply.read] at h
    split at h
    · exact HttpReply.not_isLocal_of_success h
    · obtain rfl := Except.error.inj h
      exact r.not_isLocal_failure

end Deliveries

/-- The scene of calls over a connection, whose provider of credentials has no state. -/
def World.scene (x : World) : Scene Unit := ⟨(), x.signed, x.network⟩

namespace Connection

variable (c : Connection) (stamp : Stamp) (d : Descriptor) (r : RequestObject)
  (o : RequestOptions)

/-! ## Requests that can be written -/

/-- The action, the version or the user agent may not be the value of a header. -/
def HasForbiddenValue : Prop :=
  isHeaderValue d.action = false ∨ isHeaderValue d.version = false ∨
    isHeaderValue (c.userAgentOf o) = false

instance : Decidable (c.HasForbiddenValue d o) := inferInstanceAs (Decidable (_ ∨ _ ∨ _))

/-- A request cannot be written: it is no object, or a value for its header is forbidden. -/
def CannotWrite : Prop :=
  (∀ members, r.written ≠ .ok (.obj members)) ∨ c.HasForbiddenValue d o

/-- An object has a wire form; what is no object has none. -/
theorem wireForm_cases :
    (∃ w, r.wireForm d = .ok w ∧ w.descriptor = d ∧ ∃ members, r.written =
      .ok (.obj members)) ∨
      ∃ cause, r.wireForm d = .error (.serialization cause) ∧
        ∀ members, r.written ≠ .ok (.obj members) := by
  rw [RequestObject.wireForm]
  cases hwritten : r.written with
  | error text => exact .inr ⟨.text text, rfl, nofun⟩
  | ok v =>
    cases v with
    | obj members =>
      have hassemble : WireRequest.assemble d (.obj members) =
          .ok (.place d (WireRequest.shape d members)) := rfl
      exact .inl ⟨_, hassemble, (WireRequest.descriptor_of_assemble hassemble).1,
        members, rfl⟩
    | null | bool _ | num _ | str _ | arr _ =>
      refine .inr ⟨_, rfl, ?_⟩
      intro members h
      cases Except.ok.inj h

/-- The header fields of the library can be made unless a value for them is forbidden. -/
theorem libraryHeaders_cases :
    (∃ headers, c.libraryHeaders stamp d o = .ok headers ∧ ¬ c.HasForbiddenValue d o) ∨
      ∃ cause, c.libraryHeaders stamp d o = .error (.serialization cause) ∧
        c.HasForbiddenValue d o := by
  have haccept : isHeaderValue "application/json" = true := by decide
  have hall : (∀ field ∈ c.libraryFields stamp d o, isHeaderValue field.2 = true) ↔
      ¬ c.HasForbiddenValue d o := by
    simp [libraryFields, HasForbiddenValue, stamp.isHeaderValue_nonce,
      stamp.isHeaderValue_date, haccept]
  rw [libraryHeaders]
  split
  · next h => exact .inl ⟨_, rfl, hall.1 (List.all_eq_true.1 h)⟩
  · next h =>
      exact .inr ⟨_, rfl, not_not.1 fun hallowed => h (List.all_eq_true.2 (hall.2 hallowed))⟩

/-! ## Questions to the provider -/

section Provider

variable {α σ : Type}

/-- The provider is asked about a request, once, and decides what comes of it: without
credentials the request does not leave and fails with the provider's error, and else it fails
for no local reason. -/
structure AsksOnce (provider : Provider σ) (request : SigningRequest) (x : Scene σ)
    (result : Except Error (Response α) × Scene σ) : Prop where
  asked : result.2.asked = x.asked ++ [request]
  state : result.2.state = (provider.headers request x.state).2
  refused : ∀ e, (provider.headers request x.state).1 = .error e →
    result.1 = .error (.authentication e) ∧ result.2.network = x.network
  granted : ∀ fields, (provider.headers request x.state).1 = .ok fields →
    ∀ e, result.1 = .error e → ¬ e.IsLocal

/-- The exchange asks nobody, and what comes of it is no local error. -/
theorem exchange_keeps (w : WireRequest) (headers : Headers) (reader : BodyReader α)
    (x : Scene σ) : (c.exchange w headers reader x).2.asked = x.asked ∧
      (c.exchange w headers reader x).2.state = x.state ∧
      ∀ e, (c.exchange w headers reader x).1 = .error e → ¬ e.IsLocal := by
  rw [exchange]
  split
  · refine ⟨rfl, rfl, ?_⟩
    intro e he
    obtain rfl := Except.error.inj he
    decide
  · refine ⟨rfl, rfl, ?_⟩
    intro e he
    exact Delivery.not_isLocal_of_read he

/-- A request with its header fields is asked about once. -/
theorem send_asksOnce {w : WireRequest} {headers : Headers}
    (h : c.libraryHeaders stamp w.descriptor o = .ok headers) (provider : Provider σ)
    (reader : BodyReader α) (x : Scene σ) :
    AsksOnce provider (signing w headers) x (c.send provider stamp w o reader x) := by
  cases hanswer : provider.headers (signing w headers) x.state with | mk answer state
  have hask : provider.ask (signing w headers) x =
      (answer, { x with state, asked := x.asked ++ [signing w headers] }) := by
    rw [Provider.ask, hanswer]
  rw [send, h]
  simp only [hask]
  cases answer with
  | error e =>
    refine ⟨rfl, (congrArg Prod.snd hanswer).symm, ?_, ?_⟩
    · intro e' he'
      rw [hanswer] at he'
      obtain rfl := Except.error.inj he'
      exact ⟨rfl, rfl⟩
    · intro fields hfields
      rw [hanswer] at hfields
      cases hfields
  | ok fields =>
    obtain ⟨hasked, hstate, hlocal⟩ := c.exchange_keeps w (headers.override fields) reader
      { x with state, asked := x.asked ++ [signing w headers] }
    refine ⟨hasked, hstate.trans (congrArg Prod.snd hanswer).symm, ?_, fun _ _ => hlocal⟩
    intro e he
    rw [hanswer] at he
    cases he

end Provider

/-! ## The order of failures -/

/-- Which failure of a request counts: broken constraints first, then what cannot be written,
then missing credentials.  The first two leave everything as it is. -/
structure FailsInOrder : Prop where
  /-- Broken constraints count whatever else is wrong. -/
  invalid : ∀ {e : ValidationError}, Check.validate r.checks = .error e →
    ∀ {α σ : Type} (provider : Provider σ) (reader : BodyReader α) (x : Scene σ),
      c.execute provider stamp d r o reader x = (.error (.validation (.violations e)), x)
  /-- Among valid requests, those that cannot be written fail so. -/
  unwritable : Check.validate r.checks = .ok () → c.CannotWrite d r o →
    ∃ cause, ∀ {α σ : Type} (provider : Provider σ) (reader : BodyReader α) (x : Scene σ),
      c.execute provider stamp d r o reader x = (.error (.serialization cause), x)
  /-- The provider is asked once about any other request, which fails for no other local
  reason. -/
  asked : Check.validate r.checks = .ok () → ¬ c.CannotWrite d r o →
    ∃ w headers, r.wireForm d = .ok w ∧ c.libraryHeaders stamp d o = .ok headers ∧
      ∀ {α σ : Type} (provider : Provider σ) (reader : BodyReader α) (x : Scene σ),
        AsksOnce provider (signing w headers) x (c.execute provider stamp d r o reader x)
  /-- This is how requests are prepared and run. -/
  run : ∀ {v : Json}, r.written = .ok v → ∀ {α : Type} (reader : BodyReader α) (x : World),
    c.execute (.ofCredentials c.credentials) stamp d r o reader x.scene =
      Prod.map id World.scene ((c.prepare stamp d r.checks v o).run reader x)

variable {c stamp d r o}

/-- A valid request with a wire form is sent. -/
theorem execute_eq_send (hvalid : Check.validate r.checks = .ok ()) {w : WireRequest}
    (hw : r.wireForm d = .ok w) {α σ : Type} (provider : Provider σ) (reader : BodyReader α)
    (x : Scene σ) :
    c.execute provider stamp d r o reader x = c.send provider stamp w o reader x := by
  simp only [execute, hvalid, hw]

/-- What cannot be written fails before the provider is asked. -/
theorem execute_of_cannotWrite (hvalid : Check.validate r.checks = .ok ())
    (h : c.CannotWrite d r o) :
    ∃ cause, ∀ {α σ : Type} (provider : Provider σ) (reader : BodyReader α) (x : Scene σ),
      c.execute provider stamp d r o reader x = (.error (.serialization cause), x) := by
  rcases wireForm_cases d r with ⟨w, hw, hdescriptor, members, hwritten⟩ | ⟨cause, hcause, -⟩
  · rcases c.libraryHeaders_cases stamp d o with ⟨headers, -, hallowed⟩ | ⟨cause, hcause, -⟩
    · rcases h with h | h
      · exact absurd hwritten (h members)
      · exact absurd h hallowed
    · refine ⟨cause, ?_⟩
      intro α σ provider reader x
      rw [execute_eq_send hvalid hw]
      simp only [send, hdescriptor, hcause]
  · refine ⟨cause, ?_⟩
    intro α σ provider reader x
    simp only [execute, hvalid, hcause]

/-- What can be written gets to the provider. -/
theorem execute_asksOnce (hvalid : Check.validate r.checks = .ok ())
    (h : ¬ c.CannotWrite d r o) :
    ∃ w headers, r.wireForm d = .ok w ∧ c.libraryHeaders stamp d o = .ok headers ∧
      ∀ {α σ : Type} (provider : Provider σ) (reader : BodyReader α) (x : Scene σ),
        AsksOnce provider (signing w headers) x
          (c.execute provider stamp d r o reader x) := by
  rcases wireForm_cases d r with ⟨w, hw, hdescriptor, -⟩ | ⟨cause, -, hwritten⟩
  · rcases c.libraryHeaders_cases stamp d o with
      ⟨headers, hheaders, -⟩ | ⟨cause, -, hforbidden⟩
    · refine ⟨w, headers, hw, hheaders, ?_⟩
      intro α σ provider reader x
      rw [execute_eq_send hvalid hw]
      exact c.send_asksOnce stamp o (hdescriptor ▸ hheaders) provider reader x
    · exact absurd (.inr hforbidden) h
  · exact absurd (.inl hwritten) h

/-- Running a refused request leaves the scene as it is. -/
theorem scene_run_refused {α : Type} (reader : BodyReader α) (e : Error) (x : World) :
    Prod.map id World.scene ((Attempt.refused e).run reader x) = (.error e, x.scene) := by
  simp [Attempt.run, Attempt.perform, Attempt.signed, World.scene]

/-- Signing and running a request is sending it with the provider of the connection. -/
theorem send_scene (w : WireRequest) {α : Type} (reader : BodyReader α) (x : World) :
    c.send (.ofCredentials c.credentials) stamp w o reader x.scene =
      Prod.map id World.scene ((c.sign stamp w o).run reader x) := by
  rw [send, sign]
  cases c.libraryHeaders stamp w.descriptor o with
  | error e => exact (scene_run_refused reader e x).symm
  | ok headers =>
    simp only [Provider.ask, Provider.ofCredentials]
    cases c.credentials.headers (signing w headers) with
    | error e => rfl
    | ok fields =>
      simp only [exchange]
      cases c.httpRequest? w (headers.override fields) with
      | none => rfl
      | some request => rfl

/-- Preparing and running a request is executing it with the provider of the connection. -/
theorem execute_scene {v : Json} (h : r.written = .ok v) {α : Type} (reader : BodyReader α)
    (x : World) : c.execute (.ofCredentials c.credentials) stamp d r o reader x.scene =
      Prod.map id World.scene ((c.prepare stamp d r.checks v o).run reader x) := by
  have hwire : r.wireForm d = WireRequest.assemble d v := by
    rw [RequestObject.wireForm, h]
  rw [execute, prepare, hwire]
  cases Check.validate r.checks with
  | error e => exact (scene_run_refused reader _ x).symm
  | ok _ =>
    cases WireRequest.assemble d v with
    | error e => exact (scene_run_refused reader e x).symm
    | ok wire => exact send_scene wire reader x

/-- Every request fails in order, whatever its constraints, its JSON, the descriptor, the
options and the provider of credentials. -/
theorem execute_failsInOrder (c : Connection) (stamp : Stamp) (d : Descriptor)
    (r : RequestObject) (o : RequestOptions) : c.FailsInOrder stamp d r o where
  invalid := by
    intro e h α σ provider reader x
    rw [execute, h]
  unwritable := execute_of_cannotWrite
  asked := execute_asksOnce
  run h := execute_scene h

/-- A provider that counts its refusals, and three requests: one with everything wrong with
it, one whose constraints are kept, and one that can also be written. -/
theorem execute_failsInOrder_of_counting_provider :
    let c : Connection := ⟨"http://127.0.0.1:1", "agent", .anonymous⟩
    let stamp : Stamp := ⟨"date", "nonce", by decide, by decide⟩
    let d := Descriptor.rpc "Call" "1" .get
    let busy : CredentialsError := ⟨true, .stated "busy"⟩
    let provider : Provider Nat := ⟨fun _ count => (.error busy, count + 1)⟩
    let unfit : RequestOptions := { userAgent := some "\n" }
    let x : Scene Nat := { state := 0, network := .unreachable }
    let execute (r : RequestObject) (o : RequestOptions) :=
      c.execute provider stamp d r o Json.reader x
    execute ⟨[.required "Name" false], .ok .null⟩ unfit =
        (.error (.validation (.violations (.missing "Name"))), x) ∧
      (∃ cause, execute ⟨[], .ok .null⟩ unfit = (.error (.serialization cause), x)) ∧
      ∃ signing, (execute ⟨[], .ok (.obj [])⟩ {}).1 = .error (.authentication busy) ∧
        (execute ⟨[], .ok (.obj [])⟩ {}).2 = ⟨1, [signing], .unreachable⟩ := by
  intro c stamp d busy provider unfit x execute
  have hwritable : ¬ c.CannotWrite d ⟨[], .ok (.obj [])⟩ {} := by
    rintro (h | h)
    · exact h [] rfl
    · exact absurd h (by decide)
  refine ⟨?_, ?_, ?_⟩
  · exact (execute_failsInOrder c stamp d _ unfit).invalid rfl provider Json.reader x
  · obtain ⟨cause, hcause⟩ :=
      (execute_failsInOrder c stamp d ⟨[], .ok .null⟩ unfit).unwritable rfl
      (.inl fun members h => nomatch h)
    exact ⟨cause, hcause provider Json.reader x⟩
  · obtain ⟨w, headers, -, -, hasks⟩ :=
      (execute_failsInOrder c stamp d ⟨[], .ok (.obj [])⟩ {}).asked rfl
      hwritable
    have hasked := hasks provider Json.reader x
    obtain ⟨hanswer, hnetwork⟩ := hasked.refused busy rfl
    refine ⟨signing w headers, hanswer, ?_⟩
    calc (execute ⟨[], .ok (.obj [])⟩ {}).2
        = ⟨(execute ⟨[], .ok (.obj [])⟩ {}).2.state, (execute ⟨[], .ok (.obj [])⟩ {}).2.asked,
            (execute ⟨[], .ok (.obj [])⟩ {}).2.network⟩ := rfl
      _ = ⟨1, [signing w headers], .unreachable⟩ := by
        rw [hasked.state, hasked.asked, hnetwork]
        rfl

end Connection

end BalancerClient
