import BalancerClient.Http.Url
import Mathlib.Data.List.TakeWhile

/-!
# Plain paths

A path without characters that have to be escaped and without dot segments is taken as it is
written: it is the path of every URL that it stands behind the host of, and such a URL has no
query.

## Main definitions

* `Url.IsPlainPath` - a path that is taken as it is written.

## Main statements

* `Text.glue_pieces` - gluing undoes cutting.
* `Url.path_of_isPlainPath`, `Url.query?_of_isPlainPath` - a plain path is the path of its
  URL.
-/

namespace BalancerClient

namespace Text

theorem mem_of_mem_pieces {separates : Char → Bool} {c : Char} :
    ∀ {cs piece : List Char}, piece ∈ pieces separates cs → c ∈ piece → c ∈ cs
  | [], piece, hpiece, hc => by
    rw [pieces, List.mem_singleton] at hpiece
    exact hpiece ▸ hc
  | d :: rest, piece, hpiece, hc => by
    by_cases hd : separates d = true
    · rw [pieces, if_pos hd] at hpiece
      rcases List.mem_cons.1 hpiece with rfl | hpiece
      · exact absurd hc List.not_mem_nil
      · exact List.mem_cons_of_mem _ (mem_of_mem_pieces hpiece hc)
    · rw [pieces, if_neg hd] at hpiece
      cases hrest : pieces separates rest with
      | nil => exact absurd hrest (pieces_ne_nil separates rest)
      | cons first more =>
        simp only [hrest, List.mem_cons] at hpiece
        have hmem : ∀ {piece : List Char}, piece ∈ first :: more → c ∈ piece → c ∈ rest := by
          intro piece hpiece
          rw [← hrest] at hpiece
          exact mem_of_mem_pieces hpiece
        rcases hpiece with rfl | hpiece
        · rcases List.mem_cons.1 hc with rfl | hc
          · exact List.mem_cons_self
          · exact List.mem_cons_of_mem _ (hmem List.mem_cons_self hc)
        · exact List.mem_cons_of_mem _ (hmem (List.mem_cons_of_mem _ hpiece) hc)

/-- Gluing undoes cutting when one character only separates. -/
theorem glue_pieces {separates : Char → Bool} {s : Char} :
    ∀ {cs : List Char}, (∀ c ∈ cs, separates c = true → c = s) →
      glue s (pieces separates cs) = cs
  | [], _ => rfl
  | c :: rest, h => by
    have ih : glue s (pieces separates rest) = rest :=
      glue_pieces fun d hd => h d (List.mem_cons_of_mem _ hd)
    cases hrest : pieces separates rest with
    | nil => exact absurd hrest (pieces_ne_nil separates rest)
    | cons first more =>
      rw [hrest] at ih
      by_cases hc : separates c = true
      · rw [pieces, if_pos hc, hrest, glue, ih, h c List.mem_cons_self hc]
        · rfl
        · simp
      · rw [pieces, if_neg hc, hrest]
        cases more with
        | nil =>
          rw [glue] at ih
          rw [glue, ih]
        | cons second more =>
          rw [glue] at ih ⊢
          · rw [List.cons_append, ih]
          · simp
          · simp

end Text

namespace Url

/-- A path that is taken as it is written: it starts at the root, none of its characters is
escaped or stands for another, and no segment leads elsewhere. -/
structure IsPlainPath (path : String) : Prop where
  root : ∃ rest, path.toList = '/' :: rest
  plain : ∀ c ∈ path.toList, isEscapedInPath c = false ∧ c ≠ '\\'
  straight : ∀ segment ∈ Text.pieces isSlash path.toList,
    isSingleDot segment = false ∧ isDoubleDot segment = false

/-- The root is a plain path. -/
theorem isPlainPath_root : IsPlainPath "/" where
  root := ⟨[], rfl⟩
  plain := by
    intro c hc
    obtain rfl : c = '/' := List.mem_singleton.1 hc
    decide
  straight := by decide

theorem escape_of_forall {escaped : Char → Bool} {cs : List Char}
    (h : ∀ c ∈ cs, escaped c = false) : escape escaped cs = cs := by
  induction cs with
  | nil => rfl
  | cons c rest ih =>
    rw [escape] at ih ⊢
    rw [List.flatMap_cons, h c List.mem_cons_self, ih fun d hd =>
      h d (List.mem_cons_of_mem _ hd)]
    rfl

/-- Segments that lead nowhere else stay as they are, one after the other. -/
theorem resolve_of_forall {segments : List (List Char)}
    (h : ∀ segment ∈ segments, isSingleDot segment = false ∧ isDoubleDot segment = false)
    (done : List (List Char)) :
    resolve done segments = done ++ segments.map (escape isEscapedInPath) := by
  induction segments generalizing done with
  | nil => simp [resolve]
  | cons segment rest ih =>
    obtain ⟨hsingle, hdouble⟩ := h segment List.mem_cons_self
    simp only [resolve, hsingle, hdouble, Bool.false_eq_true, if_false]
    rw [ih fun s hs => h s (List.mem_cons_of_mem _ hs)]
    simp

/-- In a plain path nothing ends the path. -/
theorem ne_mark_of_plain {c : Char} (h : isEscapedInPath c = false) : c ≠ '?' ∧ c ≠ '#' := by
  constructor
  · intro hc
    subst hc
    exact absurd h (by decide)
  · intro hc
    subst hc
    exact absurd h (by decide)

/-- A character that is not escaped is visible. -/
theorem lt_toNat_of_plain {c : Char} (h : isEscapedInPath c = false) : 32 < c.toNat := by
  simp only [isEscapedInPath, isEscaped, Bool.or_eq_false_iff, decide_eq_false_iff_not] at h
  omega

/-- A plain path is the path of its URL. -/
theorem path_of_isPlainPath {path : String} (h : IsPlainPath path) {u : Url}
    (hu : u.rest = path.toList) : u.path = path.toList := by
  obtain ⟨rest, hroot⟩ := h.root
  have hall : ∀ c ∈ path.toList, (!(c == '?' || c == '#')) = true := by
    intro c hc
    obtain ⟨hquery, hmark⟩ := ne_mark_of_plain (h.plain c hc).1
    simp [hquery, hmark]
  have hslash : isSlash '/' = true := rfl
  have hsegments : ∀ segment ∈ Text.pieces isSlash rest, segment ∈
      Text.pieces isSlash path.toList := by
    intro segment hsegment
    rw [hroot, Text.pieces, if_pos hslash]
    exact List.mem_cons_of_mem _ hsegment
  have hescape : (Text.pieces isSlash rest).map (escape isEscapedInPath) =
      (Text.pieces isSlash rest).map id := by
    apply List.map_congr_left
    intro segment hsegment
    apply escape_of_forall
    intro c hc
    exact (h.plain c (Text.mem_of_mem_pieces (hsegments segment hsegment) hc)).1
  have hglue : Text.glue '/' (Text.pieces isSlash rest) = rest := by
    apply Text.glue_pieces
    intro c hc hsep
    have hne := (h.plain c (hroot ▸ List.mem_cons_of_mem _ hc)).2
    simpa [isSlash, hne] using hsep
  rw [Url.path, hu, List.takeWhile_eq_self_iff.2 hall, hroot, List.drop_one, List.tail_cons,
    resolve_of_forall fun segment hsegment => h.straight segment (hsegments segment hsegment),
    List.nil_append, hescape, List.map_id, hglue]

/-- A URL whose rest is a plain path has no query. -/
theorem query?_of_isPlainPath {path : String} (h : IsPlainPath path) {u : Url}
    (hu : u.rest = path.toList) : u.query? = none := by
  have hmark : ∀ c ∈ path.toList, (c != '#') = true := by
    intro c hc
    simpa using (ne_mark_of_plain (h.plain c hc).1).2
  have hquery : ∀ c ∈ path.toList, (c != '?') = true := by
    intro c hc
    simpa using (ne_mark_of_plain (h.plain c hc).1).1
  rw [query?, hu, List.takeWhile_eq_self_iff.2 hmark, List.dropWhile_eq_nil_iff.2 hquery]

end Url

end BalancerClient
