/-!
# Texts cut at separators

A text with separators is cut into the pieces before, between and behind them; there is always
one more piece than there are separators.

## Main definitions

* `pieces` - the pieces of a text.
* `glue` - pieces with a separator between them.
-/

namespace BalancerClient.Text

/-- The pieces of a text around the characters that separate. -/
def pieces (separates : Char → Bool) : List Char → List (List Char)
  | [] => [[]]
  | c :: rest =>
    if separates c then [] :: pieces separates rest
    else
      match pieces separates rest with
      | [] => [[c]]
      | first :: more => (c :: first) :: more

/-- Pieces with a separator between each two. -/
def glue (separator : Char) : List (List Char) → List Char
  | [] => []
  | [piece] => piece
  | piece :: rest => piece ++ separator :: glue separator rest

theorem pieces_ne_nil (separates : Char → Bool) : ∀ cs, pieces separates cs ≠ []
  | [] => by simp [pieces]
  | c :: rest => by
    unfold pieces
    split
    · simp
    · split <;> simp

/-- A text without separators is its only piece. -/
theorem pieces_of_forall {separates : Char → Bool} :
    ∀ {cs : List Char}, (∀ c ∈ cs, separates c = false) → pieces separates cs = [cs]
  | [], _ => rfl
  | c :: rest, h => by
    have hc : separates c = false := h c (by simp)
    have hr : pieces separates rest = [rest] := pieces_of_forall fun d hd =>
        h d (by simp [hd])
    simp [pieces, hc, hr]

/-- Cutting at one separator cuts what is before it and what is behind it. -/
theorem pieces_append {separates : Char → Bool} {s : Char} (hs : separates s = true)
    (a b : List Char) :
    pieces separates (a ++ s :: b) = pieces separates a ++ pieces separates b := by
  induction a with
  | nil => simp [pieces, hs]
  | cons c a ih =>
    rw [List.cons_append, pieces, pieces, ih]
    split
    · rfl
    · cases hpieces : pieces separates a with
      | nil => exact absurd hpieces (pieces_ne_nil separates a)
      | cons first more => rfl

/-- Cutting undoes gluing when no piece holds a separator. -/
theorem pieces_glue {separates : Char → Bool} {s : Char} (hs : separates s = true) :
    ∀ {ps : List (List Char)}, ps ≠ [] → (∀ p ∈ ps, ∀ c ∈ p, separates c = false) →
      pieces separates (glue s ps) = ps
  | [], h, _ => absurd rfl h
  | [p], _, hp => by simpa [glue] using pieces_of_forall (hp p (by simp))
  | p :: q :: rest, _, hp => by
    have hr : pieces separates (glue s (q :: rest)) = q :: rest :=
      pieces_glue hs (by simp) fun r hr => hp r (by simp [hr])
    rw [glue, pieces_append hs, pieces_of_forall (hp p (by simp)), hr]
    · rfl
    · simp

/-- A character between pieces that are glued is the separator. -/
theorem mem_glue {s c : Char} :
    ∀ {ps : List (List Char)}, c ∈ glue s ps → c = s ∨ ∃ p ∈ ps, c ∈ p
  | [], h => nomatch h
  | [p], h => .inr ⟨p, List.mem_cons_self, h⟩
  | p :: q :: rest, h => by
    rcases List.mem_append.1 h with hc | hc
    · exact .inr ⟨p, List.mem_cons_self, hc⟩
    · rcases List.mem_cons.1 hc with hc | hc
      · exact .inl hc
      · rcases mem_glue hc with hc | ⟨r, hr, hc⟩
        · exact .inl hc
        · exact .inr ⟨r, List.mem_cons_of_mem p hr, hc⟩

end BalancerClient.Text
