import BalancerClient.Failure.Payload
import BalancerClient.Proofs.Json.RoundTrip

/-!
# Reading the payloads that are written

A payload that is written is read back.  The writer puts out every member, with null for one
that is absent, while the reader takes a member at a time and knows null from nothing: the two
agree member by member, and the loop over the members adds up what they agree on.

## Main definitions

* `Draft.fill` - the draft with a member of a payload.

## Main statements

* `Status.readMember_chars` - a member that is written is read back.
* `Status.readObject_moreMemberChars` - so are the members behind the first.
* `Status.ofPayload_toJson` - so is the payload.
-/

namespace BalancerClient.Status

open Utf8 (octets)
open Json (stringChars moreMemberChars escape)
open Json.Parse (EndsNumber skipBlanks skipBlanks_cons)

/-- The draft with a member of a payload. -/
def Draft.fill (s : Status) (d : Draft) : Member → Draft
  | .code => { d with code := some s.code }
  | .message => { d with message := some s.message }
  | .requestId => { d with requestId := some s.requestId }
  | .hostId => { d with hostId := some s.hostId }
  | .recommend => { d with recommend := some s.recommend }
  | .accessDeniedDetail => { d with accessDeniedDetail := some s.accessDeniedDetail }

theorem Draft.has_fill_of_ne {s : Status} {d : Draft} {m n : Member} (h : n ≠ m) :
    (d.fill s m).has n = d.has n := by
  cases m <;> cases n <;> first | rfl | exact absurd rfl h

/-- A draft with all members of a payload is the payload. -/
theorem Draft.toStatus_foldl_fill (s : Status) :
    (Member.all.foldl (Draft.fill s) {}).toStatus = s := rfl

/-! ## Members -/

theorem readText_stringChars (x : String) (rest : Bytes) :
    readText (octets (stringChars x) ++ rest) = .ok (x, rest) := by
  rw [readText, Json.Parse.octets_stringChars, List.cons_append, skipBlanks_cons (by decide),
    List.append_assoc]
  exact Json.Parse.string_stringChars x rest

/-- A text that may be absent is read back. -/
theorem readOptional_optional (x : Option String) (rest : Bytes) :
    readOptional readText (octets (Json.optional x).chars ++ rest) = .ok (x, rest) := by
  cases x with
  | none => rfl
  | some x =>
    have hread := readText_stringChars x rest
    have hchars : (Json.optional (some x)).chars = stringChars x := by
      rw [Json.optional, Option.map_some, Option.getD_some, Json.chars]
    rw [hchars, readOptional, hread]
    rw [Json.Parse.octets_stringChars, List.cons_append, skipBlanks_cons (by decide)]
    rfl

/-- A value that is not null is read where there may be null. -/
theorem readOptional_value {depth : Nat} {bytes rest : Bytes} {v : Json} (hv : v ≠ .null)
    (h : Json.Parse.value depth bytes = .ok (v, rest)) :
    readOptional (Json.Parse.value depth) bytes = .ok (some v, rest) := by
  rw [readOptional, h]
  cases hskip : skipBlanks bytes with
  | nil => rfl
  | cons b tail =>
    -- a value that begins with the first letter of null is null
    have hb : b ≠ 0x6e := by
      rintro rfl
      rw [Json.Parse.value.eq_def, hskip] at h
      have hword : (Json.Parse.word [0x75, 0x6c, 0x6c] tail).map (Json.null, ·) =
          .ok (v, rest) := h
      cases hw : Json.Parse.word [0x75, 0x6c, 0x6c] tail with
      | error fault => rw [hw] at hword; cases hword
      | ok after =>
        rw [hw] at hword
        exact hv (congrArg Prod.fst (Except.ok.inj hword)).symm
    simp only [hb, if_false]
    rfl

/-- The members of a payload as they are written. -/
def written (s : Status) (ms : List Member) : List (String × Json) :=
  ms.map fun m => (m.name, s.memberJson m)

theorem endsNumber_written (s : Status) (ms : List Member) :
    EndsNumber (octets (moreMemberChars (s.written ms))) := by
  have hends := Json.Parse.endsNumber_moreMemberChars (s.written ms) []
  rwa [List.append_nil] at hends

/-- The octets of a written member, with those of the members behind it. -/
theorem octets_written (s : Status) (m : Member) (ms : List Member) :
    octets (stringChars m.name ++ ':' ::
      ((s.memberJson m).chars ++ moreMemberChars (s.written ms))) =
      0x22 :: (octets (m.name.toList.flatMap escape) ++
        0x22 :: 0x3a :: (octets (s.memberJson m).chars ++
          octets (moreMemberChars (s.written ms)))) := by
  have hmember := Json.Parse.octets_member m.name (s.memberJson m) (s.written ms) []
  rwa [List.append_nil, List.append_nil] at hmember

theorem length_lt_length_written (s : Status) (ms : List Member) :
    ms.length < (octets (moreMemberChars (s.written ms))).length := by
  have hlength := Json.Parse.length_lt_length_moreMemberChars (s.written ms)
  rw [written, List.length_map] at hlength
  exact Nat.lt_of_lt_of_le hlength (Utf8.length_le_length_octets _)

section Members

variable {s : Status} (h : ∀ v, s.accessDeniedDetail = some v →
  v ≠ .null ∧ v.HasDistinctNames ∧ v.IsIntegral ∧ v.nesting ≤ 126)

include h

/-- A member that is written is read back. -/
theorem readMember_chars (d : Draft) (m : Member) {rest : Bytes} (hr : EndsNumber rest) :
    readMember d m (octets (s.memberJson m).chars ++ rest) = .ok (d.fill s m, rest) := by
  cases m with
  | code =>
    rw [readMember, memberJson, Json.chars, readText_stringChars]
    rfl
  | message =>
    rw [readMember, memberJson, Json.chars, readText_stringChars]
    rfl
  | requestId =>
    rw [readMember, memberJson, readOptional_optional]
    rfl
  | hostId =>
    rw [readMember, memberJson, readOptional_optional]
    rfl
  | recommend =>
    rw [readMember, memberJson, readOptional_optional]
    rfl
  | accessDeniedDetail =>
    rw [readMember, memberJson, Draft.fill]
    cases hdetail : s.accessDeniedDetail with
    | none => rfl
    | some v =>
      obtain ⟨hnull, hnames, hint, hdepth⟩ := h v hdetail
      have hread : Json.Parse.Reads (Json.Parse.value detailNesting) v :=
        Json.Parse.value_chars hnames hint hdepth
      rw [Option.getD_some, readOptional_value hnull (hread rest hr)]
      rfl

/-- A member that is written is read into the draft, whether it is the first or not. -/
theorem readObject_member {finish : Draft → Except Json.Fault Status} {fuel : Nat}
    {first : Bool} {d : Draft} {m : Member} {bytes rest : Bytes} (hnew : d.has m = false)
    (hr : EndsNumber rest) (hnext : Json.Parse.nextMember first bytes =
    .ok (.more (octets (m.name.toList.flatMap escape) ++
      0x22 :: 0x3a :: (octets (s.memberJson m).chars ++ rest)))) :
    readObject finish (fuel + 1) first d bytes =
      readObject finish fuel false (d.fill s m) rest := by
  rw [readObject, hnext]
  simp only [Json.Parse.string_stringChars, readNamed, Member.ofName?_name, hnew,
    Json.Parse.colon_cons]
  simp only [Except.bind, readMember_chars h d m hr]
  rfl

/-- The members behind the first are read up to the closing brace. -/
theorem readObject_moreMemberChars {finish : Draft → Except Json.Fault Status}
    {ms : List Member} {fuel : Nat} {d : Draft} (hms : ms.Nodup)
    (hnew : ∀ m ∈ ms, d.has m = false) (hlt : ms.length < fuel) :
    readObject finish fuel false d (octets (moreMemberChars (s.written ms))) =
      finish (ms.foldl (Draft.fill s) d) := by
  obtain ⟨fuel, rfl⟩ := Nat.exists_eq_succ_of_ne_zero (Nat.ne_of_gt (Nat.zero_lt_of_lt hlt))
  induction ms generalizing fuel d with
  | nil =>
    show readObject finish (fuel + 1) false d [0x7d] = finish d
    rw [readObject, Json.Parse.nextMember_close]
    cases finish d <;> rfl
  | cons m ms ih =>
    obtain ⟨hnotin, hms⟩ := List.nodup_cons.1 hms
    obtain ⟨hm, hnew⟩ := List.forall_mem_cons.1 hnew
    obtain ⟨fuel, rfl⟩ := Nat.exists_eq_succ_of_ne_zero
      (Nat.ne_of_gt (Nat.zero_lt_of_lt (Nat.lt_of_succ_lt_succ hlt)))
    have hrest : ∀ n ∈ ms, (d.fill s m).has n = false := by
      intro n hn
      have hne : n ≠ m := fun he => hnotin (he ▸ hn)
      rw [Draft.has_fill_of_ne hne]
      exact hnew n hn
    have hcomma : String.utf8EncodeChar ',' = [0x2c] := rfl
    have hoctets : octets (moreMemberChars (s.written (m :: ms))) = 0x2c ::
        octets (stringChars m.name ++ ':' ::
          ((s.memberJson m).chars ++ moreMemberChars (s.written ms))) := by
      rw [written, List.map_cons, moreMemberChars, Utf8.octets_cons, hcomma,
        List.singleton_append]
      rfl
    rw [List.foldl_cons, ← ih hms hrest fuel (Nat.lt_of_succ_lt_succ hlt), hoctets,
      octets_written]
    exact readObject_member h hm (endsNumber_written s ms) (Json.Parse.nextMember_comma _)

end Members

/-- A payload that is written is read back, if its details are no null, their objects have no
name twice, their numbers are integers, and they are not nested too deeply. -/
theorem ofPayload_toJson (s : Status) (h : ∀ v, s.accessDeniedDetail = some v →
      v ≠ .null ∧ v.HasDistinctNames ∧ v.IsIntegral ∧ v.nesting ≤ 126) :
    ofPayload (Utf8.encode s.toJson.compact) = .ok s := by
  have hopen : String.utf8EncodeChar '\x7b' = [0x7b] := rfl
  -- the code comes first, and the other members behind it
  have hchars : s.toJson.chars = '\x7b' :: (stringChars Member.code.name ++ ':' ::
      ((s.memberJson .code).chars ++ moreMemberChars (s.written Member.all.tail))) := rfl
  have hnew : ∀ m ∈ Member.all.tail, (Draft.fill s {} .code).has m = false := by
    simp [Member.all, Draft.has, Draft.fill]
  rw [Json.compact, Utf8.encode_eq_octets, String.toList_ofList, hchars,
    Utf8.octets_cons, hopen,
    octets_written, List.singleton_append, ofPayload, read, skipBlanks_cons (by decide)]
  simp only [if_true]
  rw [readObject_member h (m := .code) rfl (endsNumber_written s _)
    (Json.Parse.nextMember_first _), readObject_moreMemberChars h (by decide) hnew]
  · exact congrArg Except.ok (Draft.toStatus_foldl_fill s)
  · have hlt := length_lt_length_written s Member.all.tail
    simp only [List.length_cons, List.length_append]
    omega

/-- A payload with escapes, a character of two octets, an empty text and nested details. -/
def detailed : Status where
  code := "Forbidden\n\"é\""
  requestId := some ""
  accessDeniedDetail := some (.obj [("a", .arr [.int (-1), .null]), ("b", .obj [])])

theorem ofPayload_toJson_detailed :
    (∀ v, detailed.accessDeniedDetail = some v →
      v ≠ .null ∧ v.HasDistinctNames ∧ v.IsIntegral ∧ v.nesting ≤ 126) ∧
      ofPayload (Utf8.encode detailed.toJson.compact) = .ok detailed := by
  have hdetail : ∀ v, detailed.accessDeniedDetail = some v →
      v ≠ .null ∧ v.HasDistinctNames ∧ v.IsIntegral ∧ v.nesting ≤ 126 := by
    intro v hv
    obtain rfl := Option.some.inj hv
    exact ⟨Json.noConfusion, by decide, by decide, by decide⟩
  exact ⟨hdetail, ofPayload_toJson detailed hdetail⟩

end BalancerClient.Status
