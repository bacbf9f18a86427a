import BalancerClient.Request.Parameters
import Mathlib.Data.List.Nodup

/-!
# Parameters from pairs

Of pairs that are inserted one after the other the last one of a name stays.  Pairs with
different names are kept one and all: the entries are the pairs, in another order.

## Main statements

* `Parameters.get?_insertAll` - the last pair of a name gives its text.
* `Parameters.entries_ofList_perm` - pairs with different names are the entries.
* `Parameters.ofList_eq_iff` - parameters of such pairs are equal if and only if the pairs are
  the same.
* `Parameters.ofList_entries` - parameters are those of their entries.
-/

namespace BalancerClient.Parameters

/-- No entry stands twice. -/
theorem nodup_map_fst_entries (p : Parameters) : (p.entries.map Prod.fst).Nodup := by
  rw [List.Nodup, List.pairwise_map]
  exact p.ascending.imp fun h => h.ne

/-- Of the pairs with a name the last one gives it its text; without any it keeps what it
had. -/
theorem get?_insertAll (k : String) (pairs : List (String × String)) :
    ∀ p : Parameters, (p.insertAll pairs).get? k =
      ((pairs.filter fun e => e.1 = k).getLast?.map Prod.snd).or (p.get? k) := by
  induction pairs with
  | nil =>
    intro p
    rfl
  | cons e rest ih =>
    intro p
    rw [insertAll_cons, ih, get?_insert]
    by_cases h : e.1 = k
    · rw [List.filter_cons_of_pos (by simpa using h), List.getLast?_cons, if_pos h.symm]
      cases (rest.filter fun e => e.1 = k).getLast? <;> rfl
    · rw [List.filter_cons_of_neg (by simpa using h), if_neg (Ne.symm h)]

/-- Pairs leave the text of a name alone that none of them has. -/
theorem get?_insertAll_of_notMem {k : String} {pairs : List (String × String)}
    (p : Parameters) (h : k ∉ pairs.map Prod.fst) :
    (p.insertAll pairs).get? k = p.get? k := by
  have hnone : (pairs.filter fun e => e.1 = k) = [] := by
    rw [List.filter_eq_nil_iff]
    intro e he hname
    exact h (List.mem_map.2 ⟨e, he, of_decide_eq_true hname⟩)
  rw [get?_insertAll, hnone]
  rfl

/-- A name has the text that its pair gives it. -/
theorem get?_insertAll_of_mem {k t : String} {pairs : List (String × String)} (p : Parameters)
    (hnames : (pairs.map Prod.fst).Nodup) (h : (k, t) ∈ pairs) :
    (p.insertAll pairs).get? k = some t := by
  have hne : (pairs.filter fun e => e.1 = k) ≠ [] :=
    List.ne_nil_of_mem (List.mem_filter.2 ⟨h, decide_eq_true rfl⟩)
  obtain ⟨hlast, hname⟩ := List.mem_filter.1 (List.getLast_mem hne)
  have heq := List.inj_on_of_nodup_map hnames hlast h (of_decide_eq_true hname)
  rw [get?_insertAll, List.getLast?_eq_some_getLast hne, heq]
  rfl

theorem get?_ofList {pairs : List (String × String)} (hnames : (pairs.map Prod.fst).Nodup)
    (k t : String) : (ofList pairs).get? k = some t ↔ (k, t) ∈ pairs := by
  constructor
  · intro h
    by_contra hpair
    have hname : k ∈ pairs.map Prod.fst := by
      by_contra hname
      rw [ofList, get?_insertAll_of_notMem _ hname, get?_empty] at h
      exact absurd h (by simp)
    obtain ⟨⟨k', t'⟩, hmem, rfl⟩ := List.mem_map.1 hname
    rw [ofList, get?_insertAll_of_mem _ hnames hmem] at h
    exact hpair (Option.some.inj h ▸ hmem)
  · exact get?_insertAll_of_mem _ hnames

/-- Pairs with different names are the entries. -/
theorem entries_ofList_perm {pairs : List (String × String)}
    (hnames : (pairs.map Prod.fst).Nodup) : (ofList pairs).entries.Perm pairs := by
  have hentries := (nodup_map_fst_entries (ofList pairs)).of_map
  rw [List.perm_ext_iff_of_nodup hentries hnames.of_map]
  intro e
  obtain ⟨k, t⟩ := e
  rw [mem_entries_iff, get?_ofList hnames]

/-- Parameters of pairs with different names are equal if and only if the pairs are the
same. -/
theorem ofList_eq_iff {pairs pairs' : List (String × String)}
    (hnames : (pairs.map Prod.fst).Nodup) (hnames' : (pairs'.map Prod.fst).Nodup) :
    ofList pairs = ofList pairs' ↔ pairs.Perm pairs' := by
  constructor
  · intro h
    have hperm := entries_ofList_perm hnames
    rw [h] at hperm
    exact hperm.symm.trans (entries_ofList_perm hnames')
  · intro h
    ext k t
    rw [get?_ofList hnames, get?_ofList hnames', h.mem_iff]

/-- Parameters are those of their entries. -/
@[simp] theorem ofList_entries (p : Parameters) : ofList p.entries = p := by
  ext k t
  rw [get?_ofList (nodup_map_fst_entries p), mem_entries_iff]

end BalancerClient.Parameters
