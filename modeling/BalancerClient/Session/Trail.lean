/-!
# Trails of states

A thing that is set up step by step leaves a trail: the states it has been in, from the start
on.

## Main definitions

* `trail` - the states.
* `trail?` - the states behind steps that may fail; the first failure ends the trail.

## Main statements

* `view_foldl` - what can be seen of the last state is what was written last.
-/

namespace BalancerClient

/-- The states from the start on. -/
def trail {σ α : Type} (step : σ → α → σ) (start : σ) : List α → List σ
  | [] => [start]
  | a :: rest => start :: trail step (step start a) rest

/-- The states behind the start, unless a step fails. -/
def trail? {ε σ α : Type} (step : σ → α → Except ε σ) (start : σ) : List α → Except ε (List σ)
  | [] => .ok []
  | a :: rest =>
    match step start a with
    | .error error => .error error
    | .ok next => (trail? step next rest).map (next :: ·)

section LastWrite

variable {σ α β : Type} {step : σ → α → σ}

/-- A view of the last state shows what was written last, or what it showed at the start. -/
theorem view_foldl {view : σ → β} {write : α → Option β}
    (h : ∀ s a, view (step s a) = (write a).getD (view s)) (start : σ) (steps : List α) :
    view (steps.foldl step start) = (steps.filterMap write).getLast?.getD (view start) := by
  induction steps generalizing start with
  | nil => rfl
  | cons a rest ih =>
    rw [List.foldl_cons, ih, h]
    cases hw : write a with
    | none => simp [hw]
    | some value =>
      rw [List.filterMap_cons_some hw, List.getLast?_cons]
      rfl

/-- The same for a view that may show nothing, where every write shows something. -/
theorem view_foldl_or {view : σ → Option β} {write : α → Option β}
    (h : ∀ s a, view (step s a) = (write a).or (view s)) (start : σ) (steps : List α) :
    view (steps.foldl step start) = (steps.filterMap write).getLast?.or (view start) := by
  have hwrite : ∀ s a, view (step s a) = ((write a).map some).getD (view s) := by
    intro s a
    rw [h]
    cases write a <;> rfl
  rw [view_foldl hwrite, ← List.map_filterMap, List.getLast?_map]
  cases (steps.filterMap write).getLast? <;> rfl

end LastWrite

end BalancerClient
