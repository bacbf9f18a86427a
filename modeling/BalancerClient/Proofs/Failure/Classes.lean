import BalancerClient.Failure.Layout
import Mathlib.Logic.ExistsUnique

/-!
# Classes of errors

Every error is of exactly one class, and its class tells how it was made and which details it
has.  An error is kept in parts, and whether there are words for it depends on which parts
there are: some combinations have none.  No error is made of these.  The parts of the errors
that are made fit together, and parts that fit together are those of an error.

## Main definitions

* `Error.Class` - the classes of errors; `Layout.isOf` is whether parts are of a class.
* `Layout.Lacks` - parts lack something for words.
* `Layout.IsWellFormed` - parts fit together.
* `Layout.Agrees` - parts answer as an error does.
* `Layout.Tells` - what the parts of an error tell of its origin.

## Main statements

* `Layout.display_eq_error_iff` - there are no words exactly for parts that lack something.
* `Layout.isWellFormed_iff` - parts fit together if and only if an error is made of them.
* `exists_layout` - every error has parts that answer as it does.
* `Origin.layout_tells` - errors tell of their origin.
-/

namespace BalancerClient.Error

/-- The classes of errors. -/
inductive Class where
  | validation
  | serialization
  | deserialization
  | authentication
  | timeout
  | transport
  | service
  deriving DecidableEq, Repr

/-! ## Words -/

/-- A failure of the transport has no words if there is neither a cause nor a code with a
payload. -/
theorem TransportDetails.display_eq_error_iff {details : TransportDetails}
    {source : Option Cause} {lack : Lack} : details.display source = .error lack ↔
      lack = .reply ∧ source = none ∧
        (details.httpStatus = none ∨ details.payload = none) := by
  obtain ⟨httpStatus, headers, payload⟩ := details
  cases source <;> cases httpStatus <;> cases payload <;> simp [display, eq_comm]

namespace Layout

/-- Parts lack something for words: the cause of a kind that says nothing without one, or both
the cause and the reply of a failure of the transport. -/
inductive Lacks (l : Layout) : Lack → Prop where
  | cause (hsource : l.source = none) (htransport : l.isTransport = false)
      (hservice : l.status? = none) :
    Lacks l .cause
  | reply (hsource : l.source = none) (htransport : l.isTransport = true)
    (hreply : l.httpStatus? = none ∨ l.httpPayload? = none) : Lacks l .reply

variable {l : Layout}

/-- There are no words exactly for parts that lack something. -/
theorem display_eq_error_iff {lack : Lack} : l.display = .error lack ↔ l.Lacks lack := by
  obtain ⟨kind, source⟩ := l
  constructor
  · intro h
    -- The service always speaks, the transport through a reply or a cause, all other kinds
    -- through their cause.
    cases kind with
    | transport details =>
      obtain ⟨rfl, rfl, hreply⟩ := TransportDetails.display_eq_error_iff.1 h
      exact .reply rfl rfl hreply
    | service details => cases h
    | validation | serialization | deserialization | authentication | timeout =>
      cases source with
      | some cause => cases h
      | none =>
        cases h
        exact .cause rfl rfl rfl
  · intro h
    cases h with
    | cause hsource htransport hservice =>
      obtain rfl : source = none := hsource
      cases kind with
      | transport details => cases htransport
      | service details => cases hservice
      | validation | serialization | deserialization | authentication | timeout => rfl
    | reply hsource htransport hreply =>
      cases kind with
      | transport details =>
        exact TransportDetails.display_eq_error_iff.2 ⟨rfl, hsource, hreply⟩
      | validation | serialization | deserialization | authentication | timeout
      | service details =>
        cases htransport

/-- A reply whose payload is not known. -/
example : (⟨.transport { httpStatus := some 502 }, none⟩ : Layout).display =
    .error .reply := rfl

/-! ## Classes -/

/-- Whether parts are of a class.  Each class has its predicate; errors of the service are
those that have its description. -/
def isOf (l : Layout) : Class → Bool
  | .validation => l.isValidation
  | .serialization => l.isSerialization
  | .deserialization => l.isDeserialization
  | .authentication => l.isAuthentication
  | .timeout => l.isTimeout
  | .transport => l.isTransport
  | .service => l.status?.isSome

/-- The class of parts. -/
def classOf (l : Layout) : Class :=
  match l.kind with
  | .validation => .validation
  | .serialization => .serialization
  | .deserialization => .deserialization
  | .authentication => .authentication
  | .timeout => .timeout
  | .transport _ => .transport
  | .service _ => .service

theorem isOf_iff {c : Class} : l.isOf c = true ↔ c = l.classOf := by
  obtain ⟨kind, source⟩ := l
  cases kind <;> cases c <;> simp [isOf, classOf, isValidation, isSerialization,
    isDeserialization, isAuthentication, isTimeout, isTransport, status?]

/-- Parts are of exactly one class, whether they fit together or not. -/
theorem existsUnique_isOf (l : Layout) : ∃! c, l.isOf c = true :=
  ⟨l.classOf, isOf_iff.2 rfl, fun _ h => isOf_iff.1 h⟩

/-- A broken exchange is a failure of the transport. -/
theorem isTransport_of_isIo (h : l.isIo = true) : l.isTransport = true := by
  rw [isIo] at h
  rw [isTransport]
  split at h
  · next hkind => rw [hkind]
  · cases h

/-- Only failures of the transport and of the service know of a reply. -/
theorem reply_eq_none (htransport : l.isTransport = false) (hservice : l.status? = none) :
    l.httpStatus? = none ∧ l.httpHeaders? = none ∧ l.httpPayload? = none := by
  obtain ⟨kind, source⟩ := l
  cases kind with
  | transport details => cases htransport
  | service details => cases hservice
  | validation | serialization | deserialization | authentication | timeout =>
    exact ⟨rfl, rfl, rfl⟩

/-! ## Parts that fit together -/

/-- The parts of an error fit together. -/
structure IsWellFormed (l : Layout) : Prop where
  /-- A cause is missing exactly where the service or a reply speaks for itself. -/
  source_eq_none_iff : l.source = none ↔ l.status?.isSome = true ∨
    l.httpPayload?.isSome = true
  /-- Of a reply that the service did not describe all is known or nothing. -/
  details : ∀ details, l.kind = .transport details →
    details = {} ∨ ∃ httpStatus headers payload, details = ⟨some httpStatus, some headers,
      some payload⟩
  /-- Without credentials, the cause is the failure to obtain them. -/
  credentials : l.isAuthentication = true → ∃ error, l.source = some (.credentials error)

namespace IsWellFormed

/-- Parts that fit together have a cause if neither the service nor a reply speaks for
itself. -/
theorem source_ne_none (h : l.IsWellFormed) (hservice : l.status? = none)
    (hreply : l.httpPayload? = none) : l.source ≠ none := by
  rw [Ne, h.source_eq_none_iff, hservice, hreply]
  simp

theorem exists_source (h : l.IsWellFormed) (hservice : l.status? = none)
    (hreply : l.httpPayload? = none) :
    ∃ cause, l.source = some cause :=
  Option.ne_none_iff_exists'.1 (h.source_ne_none hservice hreply)

/-- Parts that fit together lack nothing. -/
theorem not_lacks (h : l.IsWellFormed) (lack : Lack) : ¬ l.Lacks lack := by
  intro hlacks
  cases hlacks with
  | cause hsource htransport hservice =>
    exact h.source_ne_none hservice (reply_eq_none htransport hservice).2.2 hsource
  | reply hsource htransport hreply =>
    obtain ⟨kind, source⟩ := l
    cases kind with
    | transport details =>
      -- With nothing known of a reply there is a cause; half a reply does not fit together.
      obtain rfl | ⟨httpStatus, headers, payload, rfl⟩ := h.details details rfl
      · exact h.source_ne_none rfl rfl hsource
      · rcases hreply with hstatus | hpayload
        · cases hstatus
        · cases hpayload
    | validation | serialization | deserialization | authentication | timeout
    | service details =>
      cases htransport

/-- There are words for parts that fit together. -/
theorem exists_display (h : l.IsWellFormed) : ∃ text, l.display = .ok text := by
  cases hdisplay : l.display with
  | ok text => exact ⟨text, rfl⟩
  | error lack => exact absurd (display_eq_error_iff.1 hdisplay) (h.not_lacks lack)

/-- Parts that fit together are those of an error. -/
theorem exists_origin (h : l.IsWellFormed) : ∃ o : Origin, o.layout = l := by
  obtain ⟨kind, source⟩ := l
  cases kind with
  | validation =>
    obtain ⟨cause, hcause⟩ := h.exists_source rfl rfl
    exact ⟨.validation cause, congrArg _ hcause.symm⟩
  | serialization =>
    obtain ⟨cause, hcause⟩ := h.exists_source rfl rfl
    exact ⟨.serialization cause, congrArg _ hcause.symm⟩
  | deserialization =>
    obtain ⟨cause, hcause⟩ := h.exists_source rfl rfl
    exact ⟨.deserialization cause, congrArg _ hcause.symm⟩
  | authentication =>
    obtain ⟨error, herror⟩ := h.credentials rfl
    exact ⟨.authentication error, congrArg _ herror.symm⟩
  | timeout =>
    obtain ⟨cause, hcause⟩ := h.exists_source rfl rfl
    exact ⟨.timeout cause, congrArg _ hcause.symm⟩
  | transport details =>
    obtain rfl | ⟨httpStatus, headers, payload, rfl⟩ := h.details details rfl
    · obtain ⟨cause, hcause⟩ := h.exists_source rfl rfl
      exact ⟨.io cause, congrArg _ hcause.symm⟩
    · have hsource := h.source_eq_none_iff.2 (.inr rfl)
      exact ⟨.http httpStatus headers payload, congrArg _ hsource.symm⟩
  | service details =>
    have hsource := h.source_eq_none_iff.2 (.inl rfl)
    exact ⟨.serviceWithMetadata details.status details.httpStatus details.headers,
      congrArg _ hsource.symm⟩

end IsWellFormed

/-! ## What errors tell -/

/-- Parts answer as an error does, and if there are words for them, these are the words of the
error. -/
structure Agrees (l : Layout) (e : Error) : Prop where
  isValidation : l.isValidation = e.isValidation
  isSerialization : l.isSerialization = e.isSerialization
  isDeserialization : l.isDeserialization = e.isDeserialization
  isAuthentication : l.isAuthentication = e.isAuthentication
  isTimeout : l.isTimeout = e.isTimeout
  isIo : l.isIo = e.isIo
  isTransport : l.isTransport = e.isTransport
  status? : l.status? = e.status?
  httpStatus? : l.httpStatus? = e.httpStatus?
  httpHeaders? : l.httpHeaders? = e.httpHeaders?
  httpPayload? : l.httpPayload? = e.httpPayload?
  source : l.source = e.cause?
  display : ∀ text, l.display = .ok text → text = e.message

/-- What the parts of an error tell of its origin. -/
structure Tells (l : Layout) (o : Origin) : Prop where
  /-- Exactly one of the seven predicates holds. -/
  isOf : ∃! c, l.isOf c = true
  isTransport_of_isIo : l.isIo = true → l.isTransport = true
  isIo_iff : l.isIo = true ↔ ∃ cause, o = .io cause
  httpPayload?_iff : ∀ payload, l.httpPayload? = some payload ↔
    ∃ httpStatus headers, o = .http httpStatus headers payload
  /-- Only failures of the transport and of the service know of a reply. -/
  reply_eq_none : l.isTransport = false → l.status? = none →
    l.httpStatus? = none ∧ l.httpHeaders? = none
  source_eq_none_iff : l.source = none ↔
    l.status?.isSome = true ∨ ∃ payload httpStatus headers,
      o = .http httpStatus headers payload
  /-- There are words. -/
  display : ∃ text, l.display = .ok text
  agrees : l.Agrees o.error

end Layout

namespace Origin

variable (o : Origin)

/-- The parts of an error that is made fit together. -/
theorem isWellFormed_layout : o.layout.IsWellFormed where
  source_eq_none_iff := by
    cases o <;> simp [layout, Layout.status?, Layout.httpPayload?]
  details := by
    intro details h
    cases o with
    | http httpStatus headers payload =>
      exact .inr ⟨httpStatus, headers, payload, (Layout.Kind.transport.inj h).symm⟩
    | io cause => exact .inl (Layout.Kind.transport.inj h).symm
    | _ => cases h
  credentials := by
    intro h
    cases o with
    | authentication error => exact ⟨error, rfl⟩
    | _ => cases h

/-- The parts of an error answer as the error does. -/
theorem agrees_layout : o.layout.Agrees o.error := by
  cases o <;> exact ⟨rfl, rfl, rfl, rfl, rfl, rfl, rfl, rfl, rfl, rfl, rfl, rfl,
    fun _ h => (Except.ok.inj h).symm⟩

/-- A failure of the transport knows nothing of a reply exactly if the exchange broke down. -/
theorem isIo_layout_iff : o.layout.isIo = true ↔ ∃ cause, o = .io cause := by
  cases o <;> simp [layout, Layout.isIo]

/-- A payload is kept exactly if the reply is not described by the service. -/
theorem httpPayload?_layout_iff (payload : Bytes) : o.layout.httpPayload? = some payload ↔
    ∃ httpStatus headers, o = .http httpStatus headers payload := by
  cases o <;> simp [layout, Layout.httpPayload?]

/-- Errors tell of their origin. -/
theorem layout_tells : o.layout.Tells o where
  isOf := o.layout.existsUnique_isOf
  isTransport_of_isIo := Layout.isTransport_of_isIo
  isIo_iff := o.isIo_layout_iff
  httpPayload?_iff := o.httpPayload?_layout_iff
  reply_eq_none := by
    intro htransport hservice
    obtain ⟨hstatus, hheaders, -⟩ := Layout.reply_eq_none htransport hservice
    exact ⟨hstatus, hheaders⟩
  source_eq_none_iff := by
    have hpayload : o.layout.httpPayload?.isSome = true ↔
        ∃ payload httpStatus headers, o = .http httpStatus headers payload := by
      simp only [Option.isSome_iff_exists, httpPayload?_layout_iff]
    rw [o.isWellFormed_layout.source_eq_none_iff, hpayload]
  display := o.isWellFormed_layout.exists_display
  agrees := o.agrees_layout

end Origin

/-- Every error has parts that fit together and answer as it does. -/
theorem exists_layout (e : Error) : ∃ l : Layout, l.IsWellFormed ∧ l.Agrees e := by
  obtain ⟨o, rfl⟩ : ∃ o : Origin, o.error = e := by
    cases e with
    | validation cause => exact ⟨.validation cause, rfl⟩
    | serialization cause => exact ⟨.serialization cause, rfl⟩
    | deserialization cause => exact ⟨.deserialization cause, rfl⟩
    | authentication error => exact ⟨.authentication error, rfl⟩
    | timeout cause => exact ⟨.timeout cause, rfl⟩
    | io cause => exact ⟨.io cause, rfl⟩
    | http httpStatus headers payload => exact ⟨.http httpStatus headers payload, rfl⟩
    | service status httpStatus headers =>
      exact ⟨.serviceWithMetadata status httpStatus headers, rfl⟩
  exact ⟨o.layout, o.isWellFormed_layout, o.agrees_layout⟩

/-- Parts fit together if and only if an error is made of them. -/
theorem Layout.isWellFormed_iff {l : Layout} :
    l.IsWellFormed ↔ ∃ o : Origin, o.layout = l := by
  constructor
  · exact IsWellFormed.exists_origin
  · rintro ⟨o, rfl⟩
    exact o.isWellFormed_layout

end BalancerClient.Error
