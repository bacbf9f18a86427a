import BalancerClient.Exchange.Network

/-!
# Requests that lead to others

A request that is taken to a server arrives there before all that it leads to.  Over a server
that replies, what it leads to is told by the replies one after the other: each request takes
one of them, and the next request is made of both.  If no reply points elsewhere, a request
takes one reply and leads to nothing.

## Main definitions

* `Network.Replies` - a network with a server that has certain replies left.
* `Network.Leads` - the requests that one leads to, and what comes of them in the end.

## Main statements

* `Network.exists_received_deliver` - a request arrives before all that it leads to.
* `Network.Replies.leads_deliver` - what comes of a request over a server that replies.
* `Network.Leads.of_direct` - without replies that point elsewhere this is the next reply.
-/

namespace BalancerClient

namespace Network

/-! ## Any network -/

variable (n : Network) (r : HttpRequest)

theorem serve_of_reachable (h : n.reachable = true) : n.serve r =
    (n.script.headD (.reply .plain),
      { n with script := n.script.tail, received := n.received ++ [r] }) := by
  rw [serve, if_pos h]

theorem follow_of_onward?_eq_none (h : (n.serve r).1.onward? n.next? r = none) (more : Nat) :
    n.follow r more = n.serve r := by
  have hnext : (n.serve r).2.next? = n.next? := by
    rw [serve]
    split <;> rfl
  cases more with
  | zero => simp [follow, hnext, h]
  | succ more => simp [follow, hnext, h]

/-- Without a server nothing arrives. -/
theorem deliver_of_unreachable (h : n.reachable = false) : n.deliver r = (.broken, n) := by
  have hserve : n.serve r = (.broken, n) := by simp [serve, h]
  rw [deliver, follow_of_onward?_eq_none n r (by rw [hserve]; rfl), hserve]

/-- A request arrives before all that it leads to. -/
theorem exists_received_follow (h : n.reachable = true) (more : Nat) :
    ∃ led, (n.follow r more).2.received = n.received ++ r :: led := by
  induction more generalizing n r with
  | zero =>
    refine ⟨[], ?_⟩
    simp only [follow, serve_of_reachable n r h]
    split <;> rfl
  | succ more ih =>
    simp only [follow, serve_of_reachable n r h]
    split
    · exact ⟨[], rfl⟩
    · next next _ =>
      obtain ⟨led, hled⟩ :=
        ih { n with script := n.script.tail, received := n.received ++ [r] } next h
      exact ⟨next :: led, by rw [hled, List.append_assoc, List.singleton_append]⟩

theorem exists_received_deliver (h : n.reachable = true) :
    ∃ led, (n.deliver r).2.received = n.received ++ r :: led :=
  exists_received_follow n r h maxOnward

/-! ## A server that replies -/

/-- A network takes every request to a server, which has these replies left. -/
structure Replies (n : Network) (replies : List HttpReply) : Prop where
  reachable : n.reachable = true
  script : n.script = replies.map .reply

/-- The requests that arrive because of one, and what comes of them in the end, at a server
with these replies left.  So many further requests may arrive at most. -/
inductive Leads (next? : HttpRequest → HttpReply → Option HttpRequest) :
    Nat → HttpRequest → List HttpReply → List HttpRequest → Delivery → Prop where
  /-- The reply leads no further. -/
  | ends {more : Nat} {r : HttpRequest} {replies : List HttpReply}
      (h : (Delivery.reply (replies.headD .plain)).onward? next? r = none) :
    Leads next? more r replies [r] (.reply (replies.headD .plain))
  /-- The reply leads further than is allowed. -/
  | exceeds {r next : HttpRequest} {replies : List HttpReply}
      (h : (Delivery.reply (replies.headD .plain)).onward? next? r = some next) :
    Leads next? 0 r replies [r] .broken
  /-- The reply leads to another request. -/
  | goesOn {more : Nat} {r next : HttpRequest} {replies : List HttpReply}
      {arrived : List HttpRequest} {delivery : Delivery}
      (h : (Delivery.reply (replies.headD .plain)).onward? next? r = some next)
      (hnext : Leads next? more next replies.tail arrived delivery) :
    Leads next? (more + 1) r replies (r :: arrived) delivery

variable {n r}

/-- One request takes one reply. -/
theorem Replies.serve {replies : List HttpReply} (h : n.Replies replies) (r : HttpRequest) :
    ∃ after, n.serve r = (.reply (replies.headD .plain), after) ∧ after.Replies replies.tail ∧
      after.next? = n.next? ∧ after.received = n.received ++ [r] := by
  refine ⟨{ n with script := n.script.tail, received := n.received ++ [r] }, ?_, ?_, rfl, rfl⟩
  · rw [serve_of_reachable n r h.reachable, h.script]
    cases replies <;> rfl
  · exact ⟨h.reachable, by rw [h.script, List.map_tail]⟩

/-- What comes of a request, and the replies that are left. -/
theorem Replies.leads_follow {replies : List HttpReply} (h : n.Replies replies)
    (r : HttpRequest) (more : Nat) :
    ∃ arrived, Leads n.next? more r replies arrived (n.follow r more).1 ∧
      (n.follow r more).2.Replies (replies.drop arrived.length) ∧
      (n.follow r more).2.next? = n.next? ∧
      (n.follow r more).2.received = n.received ++ arrived := by
  induction more generalizing n r replies with
  | zero =>
    obtain ⟨after, hserve, hafter, hnext, hreceived⟩ := h.serve r
    rw [← List.drop_one] at hafter
    refine ⟨[r], ?_⟩
    simp only [follow, hserve, hnext]
    cases honward : (Delivery.reply (replies.headD .plain)).onward? n.next? r with
    | none => exact ⟨.ends honward, hafter, hnext, hreceived⟩
    | some next => exact ⟨.exceeds honward, hafter, hnext, hreceived⟩
  | succ more ih =>
    obtain ⟨after, hserve, hafter, hnext, hreceived⟩ := h.serve r
    simp only [follow, hserve, hnext]
    cases honward : (Delivery.reply (replies.headD .plain)).onward? n.next? r with
    | none =>
      rw [← List.drop_one] at hafter
      exact ⟨[r], .ends honward, hafter, hnext, hreceived⟩
    | some next =>
      obtain ⟨arrived, hleads, hlast, hnext', hreceived'⟩ := ih hafter next
      rw [hnext] at hleads hnext'
      refine ⟨r :: arrived, .goesOn honward hleads, ?_, hnext', ?_⟩
      · rwa [← List.drop_one, List.drop_drop, Nat.add_comm] at hlast
      · rw [hreceived', hreceived, List.append_assoc, List.singleton_append]

theorem Replies.leads_deliver {replies : List HttpReply} (h : n.Replies replies)
    (r : HttpRequest) :
    ∃ arrived, Leads n.next? maxOnward r replies arrived (n.deliver r).1 ∧
      (n.deliver r).2.Replies (replies.drop arrived.length) ∧
      (n.deliver r).2.next? = n.next? ∧ (n.deliver r).2.received = n.received ++ arrived :=
  h.leads_follow r maxOnward

/-- No reply points elsewhere. -/
def AllDirect (replies : List HttpReply) : Prop :=
  ∀ reply ∈ replies, reply.pointsElsewhere = false

theorem allDirect_singleton {reply : HttpReply} (h : reply.pointsElsewhere = false) :
    AllDirect [reply] := by
  intro other hother
  obtain rfl := List.mem_singleton.1 hother
  exact h

namespace AllDirect

variable {replies : List HttpReply} (h : AllDirect replies)

include h

theorem headD : (replies.headD .plain).pointsElsewhere = false := by
  cases replies with
  | nil => rfl
  | cons reply rest => exact h reply List.mem_cons_self

theorem drop (k : Nat) : AllDirect (replies.drop k) := fun reply hreply =>
  h reply (List.mem_of_mem_drop hreply)

end AllDirect

namespace Leads

variable {next? : HttpRequest → HttpReply → Option HttpRequest} {more : Nat}
  {replies : List HttpReply} {arrived : List HttpRequest} {delivery : Delivery}

/-- A request whose reply points nowhere takes that reply and leads to nothing. -/
theorem of_direct (h : Leads next? more r replies arrived delivery)
    (hdirect : (replies.headD .plain).pointsElsewhere = false) :
    arrived = [r] ∧ delivery = .reply (replies.headD .plain) := by
  have hnone : (Delivery.reply (replies.headD .plain)).onward? next? r = none := by
    rw [Delivery.onward?, hdirect]
    rfl
  cases h with
  | ends => exact ⟨rfl, rfl⟩
  | exceeds h =>
    rw [hnone] at h
    cases h
  | goesOn h =>
    rw [hnone] at h
    cases h

end Leads

end Network

end BalancerClient
