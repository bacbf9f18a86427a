import BalancerClient.Proofs.Exchange.Carried
import BalancerClient.Proofs.Exchange.Precedence

/-!
# Calls that can be sent

A call can be sent if it passes all preparations, the provider of credentials signs it and the
transport takes its URL.  Then its request goes to the server, and with it those that the
replies lead to.  Any other call fails on the spot, with the error of the first thing that
goes wrong, and nothing is sent.

## Main definitions

* `Connection.Prepares`, `Connection.Shapes`, `Connection.IsSendable`, `Connection.Refuses` -
  when a call can be sent, what is sent then, and how it fails otherwise.
* `Outcome` - what a call comes to: its answer, the requests that arrive, and the state of the
  provider before and after it; `Connection.settle` carries out a call.

## Main statements

* `Connection.isSendable_or_refuses`, `Connection.not_refuses_of_isSendable` - every call is
  one or the other.
* `Connection.settle_of_shapes`, `Connection.settle_of_refuses` - what a call comes to.
-/

namespace BalancerClient

/-- The object that a call sends. -/
def Call.object (call : Call) : RequestObject :=
  ⟨call.operation.request.shape.checks call.request, .ok call.request.toJson⟩

namespace Connection

section Providers

variable {σ : Type}

/-! ## Calls that can be sent -/

/-- A call passes all preparations, with a wire form, header fields of the library, and header
fields of the provider of credentials in a state. -/
structure Prepares (c : Connection) (provider : Provider σ) (stamp : Stamp)
    (call : Call) (s : σ) (w : WireRequest) (headers fields : Headers) : Prop where
  valid : call.operation.request.validate call.request = .ok ()
  shaped : WireRequest.assemble call.operation.descriptor call.request.toJson = .ok w
  headed : c.libraryHeaders stamp call.operation.descriptor call.options = .ok headers
  signed : (provider.headers (signing w headers) s).1 = .ok fields

/-- The request of a call that can be sent. -/
def Shapes (c : Connection) (provider : Provider σ) (stamp : Stamp) (call : Call) (s : σ)
    (request : HttpRequest) : Prop :=
  ∃ w headers fields, c.Prepares provider stamp call s w headers fields ∧
    c.httpRequest? w (headers.override fields) = some request

/-- A call can be sent: it passes all preparations, and the transport takes its URL. -/
def IsSendable (c : Connection) (provider : Provider σ) (stamp : Stamp) (call : Call)
    (s : σ) : Prop :=
  ∃ request, c.Shapes provider stamp call s request

/-- How a call fails that cannot be sent: the first thing that goes wrong gives the error. -/
inductive Refuses (c : Connection) (provider : Provider σ) (stamp : Stamp)
    (call : Call) (s : σ) : Error → Prop where
  | invalid {e : ValidationError}
      (h : call.operation.request.validate call.request = .error e) :
    Refuses c provider stamp call s (.validation (.violations e))
  | unheaded {cause : Cause} (valid : call.operation.request.validate call.request = .ok ())
      (h : c.libraryHeaders stamp call.operation.descriptor call.options =
        .error (.serialization cause)) :
    Refuses c provider stamp call s (.serialization cause)
  | unsigned {w : WireRequest} {headers : Headers} {e : CredentialsError}
      (valid : call.operation.request.validate call.request = .ok ())
      (shaped : WireRequest.assemble call.operation.descriptor call.request.toJson = .ok w)
      (headed : c.libraryHeaders stamp call.operation.descriptor call.options = .ok headers)
      (h : (provider.headers (signing w headers) s).1 = .error e) :
    Refuses c provider stamp call s (.authentication e)
  | untaken {w : WireRequest} {headers fields : Headers}
      (h : c.Prepares provider stamp call s w headers fields)
      (url : ∀ u, Url.parse (c.endpoint ++ "/") = .ok u → u.isTaken w.query.entries = false) :
    Refuses c provider stamp call s .untakenUrl

variable {c : Connection} {provider : Provider σ} {stamp : Stamp} {call : Call} {s : σ}

theorem exists_assemble (call : Call) :
    ∃ w, WireRequest.assemble call.operation.descriptor call.request.toJson = .ok w :=
      ⟨_, rfl⟩

theorem pathname_of_assemble {w : WireRequest}
    (h : WireRequest.assemble call.operation.descriptor call.request.toJson = .ok w) :
    w.descriptor.pathname = "/" := by
  rw [(WireRequest.descriptor_of_assemble h).1]
  rfl

/-- Every call can be sent or is refused. -/
theorem isSendable_or_refuses (c : Connection) (provider : Provider σ) (stamp : Stamp)
    (call : Call) (s : σ) :
    c.IsSendable provider stamp call s ∨ ∃ e, c.Refuses provider stamp call s e := by
  cases hvalid : call.operation.request.validate call.request with
  | error e => exact .inr ⟨_, .invalid hvalid⟩
  | ok _ =>
    rcases c.libraryHeaders_cases stamp call.operation.descriptor call.options with
      ⟨headers, hheaded, -⟩ | ⟨cause, hheaded, -⟩
    · obtain ⟨w, hshaped⟩ := exists_assemble call
      cases hsigned : (provider.headers (signing w headers) s).1 with
      | error e => exact .inr ⟨_, .unsigned hvalid hshaped hheaded hsigned⟩
      | ok fields =>
        have hprepares : c.Prepares provider stamp call s w headers fields :=
          ⟨hvalid, hshaped, hheaded, hsigned⟩
        cases hrequest : c.httpRequest? w (headers.override fields) with
        | some request => exact .inl ⟨request, w, headers, fields, hprepares, hrequest⟩
        | none =>
          refine .inr ⟨_, .untaken hprepares ?_⟩
          intro u hu
          rw [← pathname_of_assemble hshaped] at hu
          have hnone :=
            mt isSome_httpRequest?_iff.2 (by rw [hrequest]; exact Bool.false_ne_true)
          simpa using fun htaken => hnone ⟨u, hu, htaken⟩
    · exact .inr ⟨_, .unheaded hvalid hheaded⟩

/-- A call that can be sent is not refused. -/
theorem not_refuses_of_isSendable (h : c.IsSendable provider stamp call s) (e : Error) :
    ¬ c.Refuses provider stamp call s e := by
  obtain ⟨request, w, headers, fields, hprepares, hrequest⟩ := h
  intro hrefuses
  cases hrefuses with
  | invalid h =>
    rw [hprepares.valid] at h
    cases h
  | unheaded valid h =>
    rw [hprepares.headed] at h
    cases h
  | unsigned valid shaped headed h =>
    obtain rfl := Except.ok.inj (hprepares.shaped.symm.trans shaped)
    obtain rfl := Except.ok.inj (hprepares.headed.symm.trans headed)
    rw [hprepares.signed] at h
    cases h
  | untaken h' url =>
    obtain rfl := Except.ok.inj (hprepares.shaped.symm.trans h'.shaped)
    obtain ⟨u, hu, htaken, -⟩ := eq_of_httpRequest? hrequest
    rw [pathname_of_assemble hprepares.shaped] at hu
    rw [url u hu] at htaken
    cases htaken

/-- The request of a call, if it can be sent. -/
def request? (c : Connection) (provider : Provider σ) (stamp : Stamp) (call : Call) (s : σ) :
    Option HttpRequest :=
  match call.operation.request.validate call.request,
    WireRequest.assemble call.operation.descriptor call.request.toJson,
    c.libraryHeaders stamp call.operation.descriptor call.options with
  | .ok _, .ok w, .ok headers =>
    match (provider.headers (signing w headers) s).1 with
    | .ok fields => c.httpRequest? w (headers.override fields)
    | .error _ => none
  | _, _, _ => none

theorem request?_eq_some_iff {request : HttpRequest} :
    c.request? provider stamp call s = some request ↔
      c.Shapes provider stamp call s request := by
  constructor
  · intro h
    rw [request?] at h
    split at h
    · next w headers hvalid hshaped hheaded =>
      cases hsigned : (provider.headers (signing w headers) s).1 with
      | error e => simp [hsigned] at h
      | ok fields =>
        rw [hsigned] at h
        exact ⟨w, headers, fields, ⟨hvalid, hshaped, hheaded, hsigned⟩, h⟩
    · cases h
  · intro h
    obtain ⟨w, headers, fields, ⟨hvalid, hshaped, hheaded, hsigned⟩, hrequest⟩ := h
    simp only [request?, hvalid, hshaped, hheaded, hsigned, hrequest]

instance : Decidable (c.IsSendable provider stamp call s) :=
  decidable_of_iff ((c.request? provider stamp call s).isSome = true) <| by
    rw [Option.isSome_iff_exists]
    exact exists_congr fun _ => request?_eq_some_iff

end Providers

end Connection

/-! ## What a call comes to -/

/-- What a call comes to: its answer, the requests that arrive while it is carried out, and
the state of the provider before and after it. -/
structure Outcome (σ : Type) where
  stamp : Stamp
  call : Call
  answer : Answer call.operation
  arrived : List HttpRequest
  before : σ
  after : σ

namespace Connection

section Providers

variable {σ : Type}

/-- Carries out a call: what it comes to, and the scene afterwards. -/
def settle (c : Connection) (provider : Provider σ) (stamp : Stamp) (call : Call)
    (x : Scene σ) : Outcome σ × Scene σ :=
  let (answer, y) :=
    c.execute provider stamp call.operation.descriptor call.object call.options
    call.operation.response.reader x
  (⟨stamp, call, answer, y.network.received.drop x.network.received.length, x.state,
    y.state⟩, y)

variable {c : Connection} {provider : Provider σ} {stamp : Stamp} {call : Call} {x : Scene σ}

/-- A valid call is sent in its wire form. -/
theorem execute_object (c : Connection) (stamp : Stamp) {w : WireRequest}
    (valid : call.operation.request.validate call.request = .ok ())
    (shaped : WireRequest.assemble call.operation.descriptor call.request.toJson = .ok w)
    (provider : Provider σ) {α : Type} (reader : BodyReader α) (x : Scene σ) :
    c.execute provider stamp call.operation.descriptor call.object call.options reader x =
      c.send provider stamp w call.options reader x :=
  execute_eq_send (r := call.object) valid shaped provider reader x

theorem libraryHeaders_of_assemble {w : WireRequest}
    (shaped : WireRequest.assemble call.operation.descriptor call.request.toJson = .ok w)
    (stamp : Stamp) (o : RequestOptions) :
    c.libraryHeaders stamp w.descriptor o =
      c.libraryHeaders stamp call.operation.descriptor o := by
  rw [(WireRequest.descriptor_of_assemble shaped).1]

theorem settle_eq {answer : Answer call.operation} {y : Scene σ}
    (h : c.execute provider stamp call.operation.descriptor call.object call.options
      call.operation.response.reader x = (answer, y)) :
    c.settle provider stamp call x =
      (⟨stamp, call, answer, y.network.received.drop x.network.received.length, x.state,
        y.state⟩, y) := by
  rw [settle, h]

/-- A call that is refused fails with the error, and nothing is sent.  If it fails before the
provider is asked, the provider stays as it is. -/
theorem settle_of_refuses {e : Error} (h : c.Refuses provider stamp call x.state e) :
    ∃ y, c.settle provider stamp call x = (⟨stamp, call, .error e, [], x.state, y.state⟩, y) ∧
      y.network = x.network ∧ (e.isValidation = true ∨ e.isSerialization = true →
        y.state = x.state) := by
  have hnothing : x.network.received.drop x.network.received.length = [] := List.drop_length
  cases h with
  | @invalid error h =>
    have hrun :=
      (execute_failsInOrder c stamp call.operation.descriptor call.object
      call.options).invalid h provider call.operation.response.reader x
    exact ⟨x, by rw [settle_eq hrun, hnothing], rfl, fun _ => rfl⟩
  | @unheaded cause valid h =>
    obtain ⟨w, hshaped⟩ := exists_assemble call
    have hrun := execute_object c stamp valid hshaped provider
      call.operation.response.reader x
    rw [send, libraryHeaders_of_assemble hshaped, h] at hrun
    exact ⟨x, by rw [settle_eq hrun, hnothing], rfl, fun _ => rfl⟩
  | @unsigned w headers error valid hshaped hheaded h =>
    have hrun := execute_object c stamp valid hshaped provider
      call.operation.response.reader x
    rw [send, libraryHeaders_of_assemble hshaped, hheaded] at hrun
    simp only [Provider.ask, h] at hrun
    refine ⟨(provider.ask (signing w headers) x).2, ?_, rfl, ?_⟩
    · rw [settle_eq hrun, hnothing]
      rfl
    · rintro (h | h) <;> cases h
  | @untaken w headers fields h hurl =>
    have hnone : c.httpRequest? w (headers.override fields) = none := by
      rw [← Option.not_isSome_iff_eq_none, isSome_httpRequest?_iff,
        pathname_of_assemble h.shaped]
      rintro ⟨u, hu, htaken⟩
      rw [hurl u hu] at htaken
      cases htaken
    have hrun := execute_object c stamp h.valid h.shaped provider
      call.operation.response.reader x
    rw [send, libraryHeaders_of_assemble h.shaped, h.headed] at hrun
    simp only [Provider.ask, h.signed, exchange, hnone] at hrun
    refine ⟨(provider.ask (signing w headers) x).2, ?_, rfl, ?_⟩
    · rw [settle_eq hrun, hnothing]
      rfl
    · rintro (h | h) <;> cases h

/-- A call that can be sent takes its request to the server, and those that the replies lead
to. -/
theorem settle_of_shapes {request : HttpRequest}
    (h : c.Shapes provider stamp call x.state request) :
    ∃ y, c.settle provider stamp call x =
        (⟨stamp, call, (x.network.deliver request).1.read call.operation.response.reader,
          (x.network.deliver request).2.received.drop x.network.received.length, x.state,
          y.state⟩, y) ∧
      y.network = (x.network.deliver request).2 := by
  obtain ⟨w, headers, fields, hprepares, hrequest⟩ := h
  have hrun :=
    execute_object c stamp hprepares.valid hprepares.shaped provider
    call.operation.response.reader x
  rw [send, libraryHeaders_of_assemble hprepares.shaped, hprepares.headed] at hrun
  simp only [Provider.ask, hprepares.signed, exchange, hrequest] at hrun
  refine ⟨_, settle_eq hrun, ?_⟩
  rfl

end Providers

end Connection

end BalancerClient
