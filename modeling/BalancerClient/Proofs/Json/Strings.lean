import BalancerClient.Json.Parser
import BalancerClient.Json.Printer
import Mathlib.Tactic.IntervalCases

/-!
# Reading the strings that are written

A string is written character by character and read octet by octet.  The two meet in one lemma
for each character: reading its written form puts exactly its octets in front of what is read
behind it.  That covers the escapes, the characters of one octet and those of several.

## Main statements

* `Json.Parse.stringContent_escape` - the law of one character.
* `Json.Parse.string_stringChars` - a string that is written is read back, whatever follows
  it.
-/

namespace BalancerClient

/-! ## Octets of characters -/

namespace Utf8

/-- The octets of characters, one after the other. -/
def octets (cs : List Char) : Bytes := cs.flatMap String.utf8EncodeChar

@[simp] theorem octets_nil : octets [] = [] := rfl

@[simp] theorem octets_cons (c : Char) (cs : List Char) :
    octets (c :: cs) = String.utf8EncodeChar c ++ octets cs := rfl

@[simp] theorem octets_append (cs ds : List Char) :
    octets (cs ++ ds) = octets cs ++ octets ds :=
  List.flatMap_append

theorem encode_eq_octets (s : String) : encode s = octets s.toList := by
  conv_lhs => rw [← String.ofList_toList (s := s)]
  exact encode_ofList s.toList

/-- All octets of any other character are beyond those of one-octet characters. -/
theorem le_of_mem_utf8EncodeChar {c : Char} (h : 128 ≤ c.toNat) :
    ∀ b ∈ String.utf8EncodeChar c, 128 ≤ b.toNat := by
  intro b hb
  have hv : ¬ c.val.toNat ≤ 127 := Nat.not_le.2 h
  simp only [String.utf8EncodeChar, hv, if_false] at hb
  split at hb
  · simp only [List.mem_cons, List.not_mem_nil, or_false] at hb
    rcases hb with rfl | rfl <;> simp only [UInt8.toNat_ofNat'] <;> omega
  · split at hb
    · simp only [List.mem_cons, List.not_mem_nil, or_false] at hb
      rcases hb with rfl | rfl | rfl <;> simp only [UInt8.toNat_ofNat'] <;> omega
    · simp only [List.mem_cons, List.not_mem_nil, or_false] at hb
      rcases hb with rfl | rfl | rfl | rfl <;> simp only [UInt8.toNat_ofNat'] <;> omega

theorem length_le_length_octets (cs : List Char) : cs.length ≤ (octets cs).length := by
  induction cs with
  | nil => exact Nat.le_refl 0
  | cons c cs ih =>
    have hc : 1 ≤ (String.utf8EncodeChar c).length :=
      List.length_pos_iff.2 String.utf8EncodeChar_ne_nil
    simp only [octets_cons, List.length_append, List.length_cons]
    omega

end Utf8

/-! ## Strings -/

namespace Json.Parse

open Utf8 (octets)

@[simp] theorem prepend_nil (r : Result Bytes) : prepend [] r = r := by
  cases r <;> rfl

theorem prepend_append (front back : Bytes) (r : Result Bytes) :
    prepend (front ++ back) r = prepend front (prepend back r) := by
  cases r with
  | error fault => rfl
  | ok p => simp [prepend]

/-- Octets that neither escape nor end a string stand for themselves. -/
theorem stringContent_append :
    ∀ {bytes : Bytes}, (∀ b ∈ bytes, 0x20 ≤ b.toNat ∧ b ≠ 0x22 ∧ b ≠ 0x5c) → ∀ rest : Bytes,
      stringContent (bytes ++ rest) = prepend bytes (stringContent rest)
  | [], _, rest => by simp
  | b :: bytes, h, rest => by
    obtain ⟨hlow, hquote, hslash⟩ := h b List.mem_cons_self
    have hctrl : ¬ b < 0x20 := by
      intro hlt
      have : b.toNat < 32 := UInt8.lt_iff_toNat_lt.1 hlt
      omega
    have ih : stringContent (bytes ++ rest) = prepend bytes (stringContent rest) :=
      stringContent_append (fun d hd => h d (List.mem_cons_of_mem _ hd)) rest
    rw [List.cons_append, stringContent.eq_def]
    simp only [if_neg hquote, if_neg hslash, if_neg hctrl]
    rw [ih, ← prepend_append, List.singleton_append]

/-- An escape of two characters. -/
theorem stringContent_simpleEscape {e octet : UInt8} (h : simpleEscape? e = some octet)
    (rest : Bytes) :
    stringContent (0x5c :: e :: rest) = prepend [octet] (stringContent rest) := by
  have hu : e ≠ 0x75 := by
    intro he
    subst he
    simp [simpleEscape?] at h
  conv_lhs => rw [stringContent.eq_def]
  simp [hu, h]

/-- An escape by number that is no half of a surrogate pair. -/
theorem stringContent_scalar {h₁ h₂ h₃ h₄ : UInt8} {unit : Nat}
    (h : hexUnit? h₁ h₂ h₃ h₄ = some unit) (hlow : isLowSurrogate unit = false)
    (hhigh : isHighSurrogate unit = false) (rest : Bytes) :
    stringContent (0x5c :: 0x75 :: h₁ :: h₂ :: h₃ :: h₄ :: rest) =
      prepend (codePoint unit) (stringContent rest) := by
  conv_lhs => rw [stringContent.eq_def]
  simp [h, hlow, hhigh]

/-- Small numbers are no halves of surrogate pairs. -/
theorem not_isSurrogate_of_lt {unit : Nat} (h : unit < 0xD800) :
    isLowSurrogate unit = false ∧ isHighSurrogate unit = false := by
  simp only [isLowSurrogate, isHighSurrogate, Bool.and_eq_false_iff, decide_eq_false_iff_not]
  omega

/-- A control character without an escape of its own is written by its number. -/
theorem octets_controlEscape :
    ∀ n < 32, ∃ h₃ h₄ : UInt8,
      octets (controlEscape (Char.ofNat n)) = [0x5c, 0x75, 0x30, 0x30, h₃, h₄] ∧
        hexUnit? 0x30 0x30 h₃ h₄ = some n := by
  intro n hn
  interval_cases n <;> exact ⟨_, _, rfl, rfl⟩

/-- A character is read as its octets. -/
theorem stringContent_escape (c : Char) (rest : Bytes) :
    stringContent (octets (escape c) ++ rest) =
      prepend (String.utf8EncodeChar c) (stringContent rest) := by
  unfold escape
  split
  -- the characters with an escape of two characters
  any_goals exact stringContent_simpleEscape (by rfl) rest
  · next hquote hslash _ _ _ _ _ =>
    split
    · next hc =>
      obtain ⟨h₃, h₄, ho, hu⟩ := octets_controlEscape c.toNat hc
      rw [Char.ofNat_toNat] at ho
      rw [ho]
      obtain ⟨hlow, hhigh⟩ := not_isSurrogate_of_lt (Nat.lt_trans hc (by decide))
      have hread := stringContent_scalar hu hlow hhigh rest
      rwa [codePoint, Char.ofNat_toNat] at hread
    · next hc =>
      have hplain : ∀ b ∈ String.utf8EncodeChar c, 0x20 ≤ b.toNat ∧ b ≠ 0x22 ∧ b ≠ 0x5c := by
        intro b hb
        by_cases hsmall : c.toNat < 128
        · rw [Utf8.utf8EncodeChar_of_lt hsmall, List.mem_singleton] at hb
          subst hb
          have hnat : (UInt8.ofNat c.toNat).toNat = c.toNat := by
            simp only [UInt8.toNat_ofNat']
            omega
          refine ⟨by omega, ?_, ?_⟩
          · intro he
            rw [he] at hnat
            exact hquote (Char.toNat_inj.1 hnat.symm)
          · intro he
            rw [he] at hnat
            exact hslash (Char.toNat_inj.1 hnat.symm)
        · have hb' := Utf8.le_of_mem_utf8EncodeChar (by omega) b hb
          refine ⟨by omega, ?_, ?_⟩
          · intro he
            subst he
            simp at hb'
          · intro he
            subst he
            simp at hb'
      simpa using stringContent_append hplain rest

/-- The content of a string is read up to the closing quotation mark. -/
theorem stringContent_flatMap_escape (cs : List Char) (rest : Bytes) :
    stringContent (octets (cs.flatMap escape) ++ 0x22 :: rest) = .ok (octets cs, rest) := by
  induction cs with
  | nil =>
    rw [List.flatMap_nil, Utf8.octets_nil, List.nil_append, stringContent.eq_def]
    simp
  | cons c cs ih =>
    rw [List.flatMap_cons, Utf8.octets_append, List.append_assoc, stringContent_escape, ih]
    rfl

/-- The octets of a written string: its opening quotation mark, its content, its closing
one. -/
theorem octets_stringChars (s : String) :
    octets (stringChars s) = 0x22 :: (octets (s.toList.flatMap escape) ++ [0x22]) := by
  simp only [stringChars, List.cons_append, Utf8.octets_cons, Utf8.octets_append]
  rfl

/-- A string that is written is read back. -/
theorem string_stringChars (s : String) (rest : Bytes) :
    string (octets (s.toList.flatMap escape) ++ 0x22 :: rest) = .ok (s, rest) := by
  rw [string, stringContent_flatMap_escape]
  simp only [← Utf8.encode_eq_octets, Utf8.decode?_encode]

end Json.Parse

end BalancerClient
