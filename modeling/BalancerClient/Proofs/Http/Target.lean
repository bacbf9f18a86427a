import BalancerClient.Echo.Server
import BalancerClient.Http.Message
import Mathlib.Data.List.TakeWhile

/-!
# Targets

The target of a request is the path of its URL, and behind the first question mark the query
with the parameters that were added to it.  Whatever the path of a URL is read from, no
question mark is in it, so a server cuts the target where it was put together.  What it then
finds in the query is what the URL had there, followed by the parameters.

## Main statements

* `Url.takeWhile_targetText`, `Url.queryText_targetText` - a target is cut where it was put
  together.
* `Url.decode?_queryText` - what a server finds in the query.
* `Url.isTaken_of_lt_length` - a parameter may be too long.
-/

namespace BalancerClient

namespace Form

/-- The pairs of two forms with an ampersand between them are those of the one and then of the
other. -/
theorem decode?_append (front back : List Char) :
    decode? (String.ofList (front ++ '&' :: back)) =
      (decode? (String.ofList front)).bind fun a =>
        (decode? (String.ofList back)).map fun b => a ++ b := by
  simp only [decode?, String.toList_ofList,
    @Text.pieces_append (· == '&') '&' rfl,
    List.filter_append, List.mapM_append]
  cases ((Text.pieces (· == '&') front).filter (!·.isEmpty)).mapM readPair? with
  | none => rfl
  | some a =>
    cases ((Text.pieces (· == '&') back).filter (!·.isEmpty)).mapM readPair? with
    | none => rfl
    | some b => rfl

/-- No octet is left out of a form. -/
theorem octet_ne_nil (b : UInt8) : octet b ≠ [] := by
  rw [octet]
  split
  · simp
  · split <;> simp [percentOctet]

/-- A text takes up no less room in a form than it has characters. -/
theorem length_le_length_text (s : String) : s.toList.length ≤ (text s).length := by
  have hoctets : ∀ bytes : Bytes, bytes.length ≤ (bytes.flatMap octet).length := by
    intro bytes
    induction bytes with
    | nil => exact Nat.le_refl _
    | cons b bytes ih =>
      have hb := List.length_pos_iff.2 (octet_ne_nil b)
      rw [List.length_cons, List.flatMap_cons, List.length_append]
      omega
  have hchars : ∀ cs : List Char, cs.length ≤ (cs.flatMap String.utf8EncodeChar).length := by
    intro cs
    induction cs with
    | nil => exact Nat.le_refl _
    | cons c cs ih =>
      have hc := List.length_pos_iff.2 (String.utf8EncodeChar_ne_nil (c := c))
      rw [List.length_cons, List.flatMap_cons, List.length_append]
      omega
  have htext := hoctets (Utf8.encode s)
  have hencode := hchars s.toList
  rw [← Utf8.encode_ofList, String.ofList_toList] at hencode
  exact Nat.le_trans hencode htext

end Form

namespace Url

/-! ## Paths -/

/-- A percent-encoded octet is written without a question mark. -/
theorem mark_notMem_percentOctet (b : UInt8) : '?' ∉ percentOctet b := by
  have h : (!(percentOctet b).contains '?') = true :=
    Form.forall_octet (p := fun b => !(percentOctet b).contains '?') (by decide +kernel) b
  simpa using h

/-- Where question marks are percent-encoded there are none left. -/
theorem mark_notMem_escape {escaped : Char → Bool} (h : escaped '?' = true) (cs : List Char) :
    '?' ∉ escape escaped cs := by
  intro hmem
  obtain ⟨c, -, hc⟩ := List.mem_flatMap.1 hmem
  split at hc
  · obtain ⟨b, -, hb⟩ := List.mem_flatMap.1 hc
    exact mark_notMem_percentOctet b hb
  · next hplain =>
    obtain rfl := List.mem_singleton.1 hc
    exact hplain h

/-- The segments of a path are written without question marks. -/
theorem mark_notMem_resolve {done segments : List (List Char)}
    (h : ∀ segment ∈ done, '?' ∉ segment) :
    ∀ segment ∈ resolve done segments, '?' ∉ segment := by
  have hclosing : ∀ (rest : List (List Char)) {done : List (List Char)},
      (∀ s ∈ done, '?' ∉ s) →
      ∀ s ∈ done ++ (if rest.isEmpty then [[]] else []), '?' ∉ s := by
    intro rest done hdone s hs
    rcases List.mem_append.1 hs with hs | hs
    · exact hdone s hs
    · split at hs
      · obtain rfl := List.mem_singleton.1 hs
        exact List.not_mem_nil
      · exact absurd hs List.not_mem_nil
  fun_induction resolve done segments with
  | case1 done => exact h
  | case2 done segment rest closing hdouble ih =>
    apply ih
    exact hclosing rest fun s hs => h s (List.dropLast_subset done hs)
  | case3 done segment rest closing hdouble hsingle ih =>
    apply ih
    exact hclosing rest h
  | case4 done segment rest hdouble hsingle ih =>
    apply ih
    intro s hs
    rcases List.mem_append.1 hs with hs | hs
    · exact h s hs
    · obtain rfl := List.mem_singleton.1 hs
      exact mark_notMem_escape (by decide) segment

/-- No question mark is in the path of a URL. -/
theorem mark_notMem_path (u : Url) : '?' ∉ u.path := by
  intro hmem
  rw [path] at hmem
  rcases List.mem_cons.1 hmem with hslash | hmem
  · cases hslash
  · rcases Text.mem_glue hmem with hslash | ⟨segment, hsegment, hmark⟩
    · cases hslash
    · exact mark_notMem_resolve (by simp) segment hsegment hmark

/-! ## Cutting a target -/

variable (u : Url) (pairs : List (String × String))

theorem path_ne_mark {c : Char} (hc : c ∈ u.path) : (c != '?') = true := by
  rw [bne_iff_ne]
  intro hmark
  exact u.mark_notMem_path (hmark ▸ hc)

/-- In front of the first question mark of a target is the path. -/
theorem takeWhile_targetText : (u.targetText pairs).takeWhile (· != '?') = u.path := by
  rw [targetText]
  cases u.queryWith pairs with
  | none => exact List.takeWhile_eq_self_iff.2 fun c hc => u.path_ne_mark hc
  | some query =>
    rw [List.takeWhile_append_of_pos fun c hc => u.path_ne_mark hc]
    simp

/-- Behind it is the query. -/
theorem queryText_targetText : EchoServer.queryText (String.ofList (u.targetText pairs)) =
    String.ofList ((u.queryWith pairs).getD []) := by
  rw [EchoServer.queryText, String.toList_ofList, targetText]
  cases u.queryWith pairs with
  | none =>
    rw [List.dropWhile_eq_nil_iff.2 fun c hc => u.path_ne_mark hc]
    rfl
  | some query =>
    rw [List.dropWhile_append_of_pos fun c hc => u.path_ne_mark hc]
    simp

/-- A server finds what the URL has in its query, and behind it the parameters. -/
theorem decode?_queryText :
    Form.decode? (EchoServer.queryText (String.ofList (u.targetText pairs))) =
    (Form.decode? (String.ofList (u.query?.getD []))).map (· ++ pairs) := by
  rw [queryText_targetText, queryWith]
  by_cases hpairs : pairs.isEmpty = true
  · rw [if_pos hpairs, List.isEmpty_iff.1 hpairs]
    cases Form.decode? (String.ofList (u.query?.getD [])) <;> simp
  · rw [if_neg hpairs]
    have hadded : Form.decode? (String.ofList (Form.encode pairs).toList) = some pairs := by
      rw [String.ofList_toList, Form.decode?_encode]
    have hempty : Form.decode? (String.ofList []) = some [] := rfl
    cases hquery : u.query? with
    | none =>
      simp only [Option.getD_some, Option.getD_none, hadded, hempty, Option.map_some,
      List.nil_append]
    | some present =>
      cases present with
      | nil => simp only [Option.getD_some, hadded, hempty, Option.map_some, List.nil_append]
      | cons c rest =>
        simp only [Option.getD_some, Form.decode?_append, hadded, Option.map_some]
        cases Form.decode? (String.ofList (c :: rest)) <;> rfl

/-- Without a query and without parameters there is no question mark. -/
theorem mark_notMem_targetText (hquery : u.query? = none) (hpairs : pairs = []) :
    '?' ∉ u.targetText pairs := by
  rw [targetText, queryWith, hpairs, List.isEmpty_nil, if_pos rfl, hquery]
  exact u.mark_notMem_path

/-! ## Lengths -/

/-- The parameters are written out as a part of the URL. -/
theorem length_encode_le_text (hpairs : pairs ≠ []) :
    (Form.encode pairs).toList.length ≤ (u.text pairs).length := by
  have hquery : ∃ query, u.queryWith pairs = some query ∧
      (Form.encode pairs).toList.length ≤ query.length := by
    have hne : ¬ pairs.isEmpty = true := by simp [hpairs]
    rw [queryWith, if_neg hne]
    split
    · exact ⟨_, rfl, Nat.le_refl _⟩
    · exact ⟨_, rfl, Nat.le_refl _⟩
    · refine ⟨_, rfl, ?_⟩
      simp only [List.length_append, List.length_cons]
      omega
  obtain ⟨query, hquery, hle⟩ := hquery
  simp only [text, targetText, hquery, List.length_append, List.length_cons]
  omega

/-- The transport does not take a URL with a long parameter. -/
theorem isTaken_of_lt_length {name s : String} (h : maxText < s.toList.length) :
    u.isTaken [(name, s)] = false := by
  have hpair : s.toList.length ≤ (Form.encode [(name, s)]).toList.length := by
    have htext := Form.length_le_length_text s
    simp only [Form.encode, String.toList_ofList, List.map_cons, List.map_nil,
      Text.glue, Form.pair, List.length_append, List.length_cons]
    omega
  have hlong : ¬ (u.text [(name, s)]).length ≤ maxText := by
    have hle := u.length_encode_le_text [(name, s)] (by simp)
    omega
  simp [isTaken, hlong]

end Url

end BalancerClient
