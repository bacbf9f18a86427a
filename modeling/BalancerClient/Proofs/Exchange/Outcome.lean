import BalancerClient.Session.Transport

/-!
# What comes of a reply

Every reply decides what its caller gets.  A reply of success brings a body or it cannot be
read; any other reply is a failure, described by the service or kept as it came.  Which of
these it is depends on the status code, on whether there are any octets, on two different
readings of the octets as JSON, and on the type of the body.

## Main definitions

* `HttpReply.Brings` - the body that a reply of success brings.
* `Error.IsUnreadable`, `Error.Reports`, `Error.Keeps` - the three errors that a reply can end
  in.
* `HttpReply.Decides` - what a caller gets is what the reply decides.

## Main statements

* `HttpReply.read_decided` - replies are read so.
* `Attempt.run_decided` - a request that is sent and replied to ends so.
-/

namespace BalancerClient

/-! ## Errors of replies -/

namespace Error

/-- An error is of a reply that cannot be read, and neither of the service nor of the
transport. -/
structure IsUnreadable (e : Error) : Prop where
  isDeserialization : e.isDeserialization = true
  isTransport : e.isTransport = false
  status? : e.status? = none

/-- An error is of the service: it has what the service says, the code and the header fields
of the reply, and no payload. -/
structure Reports (e : Error) (s : Status) (r : HttpReply) : Prop where
  kind : e.kind = .service
  status? : e.status? = some s
  httpStatus? : e.httpStatus? = some r.status
  httpHeaders? : e.httpHeaders? = some r.headers
  httpPayload? : e.httpPayload? = none

/-- An error is of the transport, though not of a broken exchange, and keeps all of a
reply. -/
structure Keeps (e : Error) (r : HttpReply) : Prop where
  isTransport : e.isTransport = true
  isIo : e.isIo = false
  status? : e.status? = none
  httpStatus? : e.httpStatus? = some r.status
  httpHeaders? : e.httpHeaders? = some r.headers
  httpPayload? : e.httpPayload? = some r.body

/-- An error of the service keeps no reply. -/
theorem Reports.not_keeps {e : Error} {s : Status} {r : HttpReply} (h : e.Reports s r) :
    ¬ e.Keeps r := by
  intro hkeeps
  have hstatus := h.status?
  rw [hkeeps.status?] at hstatus
  cases hstatus

end Error

namespace HttpReply

variable {α : Type} (reader : BodyReader α) (r : HttpReply)

/-- A reply is without content and has no octets. -/
def IsBare : Prop := r.status = 204 ∧ r.body = []

/-- A reply of success brings a body: the one with nothing in it if the reply is bare, else
the one that its octets, read as a single JSON value, stand for. -/
def Brings (body : α) : Prop :=
  (r.IsBare ∧ body = reader.empty) ∨
    (¬ r.IsBare ∧ ∃ v, Json.parse r.body = .ok v ∧ reader.decode v = .ok body)

/-- What a caller gets is what a reply decides. -/
structure Decides (result : Except Error (Response α)) : Prop where
  /-- A reply of success that brings a body. -/
  brought : 200 ≤ r.status → r.status ≤ 299 → ∀ body, r.Brings reader body →
    result = .ok ⟨⟨r.status, r.headers⟩, body⟩
  /-- A reply of success that brings none. -/
  unreadable : 200 ≤ r.status → r.status ≤ 299 → (∀ body, ¬ r.Brings reader body) →
    ∃ error, result = .error error ∧ error.IsUnreadable
  /-- A reply of failure. -/
  failed : ¬ (200 ≤ r.status ∧ r.status ≤ 299) → ∃ error, result = .error error ∧
    (∀ s, error.Reports s r ↔ Status.ofPayload r.body = .ok s) ∧
    (error.Keeps r ↔ ∀ s, Status.ofPayload r.body ≠ .ok s)

/-! ## Replies of success -/

variable {reader r}

theorem isBare_iff : (r.body.isEmpty = true ∧ r.status = 204) ↔ r.IsBare := by
  rw [IsBare, List.isEmpty_iff, and_comm]

theorem success_of_brings {body : α} (h : r.Brings reader body) :
    r.success reader = .ok ⟨r.parts, body⟩ := by
  rcases h with ⟨hbare, rfl⟩ | ⟨hbare, v, hv, hbody⟩
  · rw [success, if_pos (isBare_iff.2 hbare)]
  · rw [success, if_neg (mt isBare_iff.1 hbare), hv]
    simp only [BodyReader.materialize, hbody]

theorem success_of_not_brings (h : ∀ body, ¬ r.Brings reader body) :
    ∃ error, r.success reader = .error error ∧ error.IsUnreadable := by
  have hbare : ¬ r.IsBare := by
    intro hbare
    exact h reader.empty (.inl ⟨hbare, rfl⟩)
  rw [success, if_neg (mt isBare_iff.1 hbare)]
  cases hparse : Json.parse r.body with
  | error fault => exact ⟨_, rfl, rfl, rfl, rfl⟩
  | ok v =>
    cases hdecode : reader.decode v with
    | error mismatch =>
      simp only [BodyReader.materialize, hdecode]
      exact ⟨_, rfl, rfl, rfl, rfl⟩
    | ok body => exact absurd (.inr ⟨hbare, v, hparse, hdecode⟩) (h body)

/-! ## Replies of failure -/

/-- What the service says of a failure is what its payload says. -/
theorem failure_reports_iff (s : Status) :
    r.failure.Reports s r ↔ Status.ofPayload r.body = .ok s := by
  rw [failure]
  cases hpayload : Status.ofPayload r.body with
  | ok status =>
    constructor
    · intro h
      exact congrArg Except.ok (Option.some.inj h.status?)
    · intro h
      obtain rfl := Except.ok.inj h
      exact ⟨rfl, rfl, rfl, rfl, rfl⟩
  | error fault =>
    constructor
    · intro h
      cases h.status?
    · intro h
      cases h

/-- A failure that the service does not describe keeps the reply. -/
theorem failure_keeps_iff : r.failure.Keeps r ↔ ∀ s, Status.ofPayload r.body ≠ .ok s := by
  constructor
  · intro hkeeps s hpayload
    exact ((failure_reports_iff s).2 hpayload).not_keeps hkeeps
  · intro h
    rw [failure]
    cases hpayload : Status.ofPayload r.body with
    | ok status => exact absurd hpayload (h status)
    | error fault => exact ⟨rfl, rfl, rfl, rfl, rfl, rfl⟩

/-! ## Replies -/

theorem isSuccess_iff : r.isSuccess = true ↔ 200 ≤ r.status ∧ r.status ≤ 299 := by
  rw [isSuccess, Bool.and_eq_true, decide_eq_true_eq, decide_eq_true_eq, Nat.lt_succ_iff]

/-- A reply is read as it decides. -/
theorem read_decided (reader : BodyReader α) (r : HttpReply) :
    r.Decides reader (r.read reader) where
  brought := by
    intro hlow hhigh body hbody
    rw [read, if_pos (isSuccess_iff.2 ⟨hlow, hhigh⟩), success_of_brings hbody, parts]
  unreadable := by
    intro hlow hhigh h
    rw [read, if_pos (isSuccess_iff.2 ⟨hlow, hhigh⟩)]
    exact success_of_not_brings h
  failed := by
    intro h
    rw [read, if_neg (mt isSuccess_iff.1 h)]
    exact ⟨r.failure, rfl, failure_reports_iff, failure_keeps_iff⟩

end HttpReply

/-- When a request is sent and a reply comes back, the reply decides what the caller gets,
whatever the type of the body. -/
theorem Attempt.run_decided {α : Type} (reader : BodyReader α) {a : Attempt} {w : World}
    {wire : WireRequest} {signing : SigningRequest} {request : HttpRequest} {r : HttpReply}
    (hready : a = .ready wire signing (some request))
    (hreply : (w.network.deliver request).1 = .reply r) :
    r.Decides reader (a.run reader w).1 := by
  have hresult : (a.run reader w).1 = r.read reader := by
    rw [hready, run, perform]
    simp only [hreply, Delivery.read]
  rw [hresult]
  exact r.read_decided reader

/-- A payload of the service with a code of failure, and one with a code of success that is
cut off. -/
theorem Attempt.run_decided_of_payload :
    let text := "\x7b\"Code\":\"Busy\"\x7d"
    let failed : HttpReply := { status := 503, body := Utf8.encode text }
    let cut : HttpReply := { status := 201, body := (Utf8.encode text).dropLast }
    let wire := WireRequest.place (Operation.getJobStatus).descriptor {}
    let a : Attempt := .ready wire (Connection.signing wire {}) (some ⟨.get, "/", {}, []⟩)
    (∃ error, (a.run Json.reader ⟨.serving [.reply failed], [], []⟩).1 = .error error ∧
      error.Reports { code := "Busy" } failed) ∧
      ∃ error, (a.run Json.reader ⟨.serving [.reply cut], [], []⟩).1 = .error error ∧
        error.IsUnreadable := by
  intro text failed cut wire a
  have hfailed :=
    run_decided Json.reader (a := a) (w := ⟨.serving [.reply failed], [], []⟩) rfl rfl
  have hcut := run_decided Json.reader (a := a) (w := ⟨.serving [.reply cut], [], []⟩) rfl rfl
  have hpayload : Status.ofPayload failed.body = .ok { code := "Busy" } := rfl
  have hparse : Json.parse cut.body = .error .eof := rfl
  constructor
  · obtain ⟨error, herror, hreports, -⟩ := hfailed.failed (by decide)
    exact ⟨error, herror, (hreports _).2 hpayload⟩
  · refine hcut.unreadable (by decide) (by decide) ?_
    intro body hbrings
    rcases hbrings with ⟨⟨hcode, -⟩, -⟩ | ⟨-, v, hv, -⟩
    · cases hcode
    · rw [hparse] at hv
      cases hv

end BalancerClient
