import BalancerClient.Json.Text
import BalancerClient.Proofs.Json.RoundTrip

/-!
# Reading tokens

The reader of a string finds the characters that its text stands for, and the reader of a
number finds the number; each fails if there is none.  What follows is left.

A reader is compared with its text by what it gives, not by why it fails, as a text stands for
nothing or for something.  A text is read octet by octet, so there is one lemma for each kind
of piece, and from these the whole is read by the recursion that says what it stands for.

## Main definitions

* `Json.Parse.Finds` - a reader finds a value, or fails if there is none.

## Main statements

* `Json.Parse.skipBlanks_append` - blanks do not matter.
* `Json.Parse.finds_string`, `Json.Parse.finds_number` - the readers of the two kinds of
  tokens.
-/

namespace BalancerClient.Json.Parse

/-- A reader finds a value in front of what is left, or fails if there is none. -/
def Finds {α : Type} (result : Result α) (value : Option α) (rest : Bytes) : Prop :=
  result.toOption = value.map (·, rest)

namespace Finds

variable {α β : Type} {result : Result α} {v : α} {value : Option α} {rest : Bytes}

theorem eq_ok (h : Finds result (some v) rest) : result = .ok (v, rest) := by
  cases result with
  | error fault => cases h
  | ok p => exact congrArg Except.ok (Option.some.inj h)

theorem eq_error (h : Finds result none rest) : ∃ fault, result = .error fault := by
  cases result with
  | error fault => exact ⟨fault, rfl⟩
  | ok p => cases h

theorem map (h : Finds result value rest) (f : α → β) :
    Finds (result.map fun (v, rest) => (f v, rest)) (value.map f) rest := by
  cases value with
  | none =>
    obtain ⟨fault, rfl⟩ := h.eq_error
    rfl
  | some v =>
    obtain rfl := h.eq_ok
    rfl

theorem none_or_some (h : Finds result value rest) :
    (value = none ∧ ∃ fault, result = .error fault) ∨ ∃ v, value = some v ∧
      result = .ok (v, rest) := by
  cases value with
  | none => exact .inl ⟨rfl, h.eq_error⟩
  | some v => exact .inr ⟨v, rfl, h.eq_ok⟩

/-- A reader that takes nothing more. -/
theorem of_eq_map {x : Except Fault α} (h : result = x.map (·, rest)) :
    Finds result x.toOption rest := by
  rw [h]
  cases x <;> rfl

end Finds

/-! ## Blanks -/

/-- Blanks are passed over. -/
theorem skipBlanks_append (bs : Blanks) (rest : Bytes) :
    skipBlanks (bs.octets ++ rest) = skipBlanks rest := by
  obtain ⟨octets, hblank⟩ := bs
  induction octets with
  | nil => rfl
  | cons b octets ih =>
    have hb : isBlank b = true := hblank b List.mem_cons_self
    have hrest : ∀ d ∈ octets, isBlank d = true := by
      intro d hd
      exact hblank d (List.mem_cons_of_mem b hd)
    simpa [skipBlanks, hb] using ih hrest

/-- Blanks end numbers. -/
theorem endsNumber_append {rest : Bytes} (h : EndsNumber rest) (bs : Blanks) :
    EndsNumber (bs.octets ++ rest) := by
  obtain ⟨octets, hblank⟩ := bs
  cases octets with
  | nil => exact h
  | cons b octets =>
    intro d hd
    obtain rfl : b = d := Option.some.inj hd
    have hb : isBlank b = true := hblank b List.mem_cons_self
    simp only [isBlank, Bool.or_eq_true, beq_iff_eq] at hb
    rcases hb with ((rfl | rfl) | rfl) | rfl <;> decide

/-! ## Strings -/

theorem Finds.prepend {result : Result Bytes} {content : Option Bytes} {rest : Bytes}
    (h : Finds result content rest) (front : Bytes) :
    Finds (Parse.prepend front result) (content.map (front ++ ·)) rest := by
  cases content with
  | none =>
    obtain ⟨fault, rfl⟩ := h.eq_error
    rfl
  | some content =>
    obtain rfl := h.eq_ok
    rfl

section Units

variable {h₁ h₂ h₃ h₄ : UInt8} {unit : Nat} (hunit : hexUnit? h₁ h₂ h₃ h₄ = some unit)
  (rest : Bytes)

include hunit

/-- The second half of a surrogate pair does not come first. -/
theorem stringContent_lowSurrogate (hlow : isLowSurrogate unit = true) :
    stringContent (0x5c :: 0x75 :: h₁ :: h₂ :: h₃ :: h₄ :: rest) = .error .syntactic := by
  rw [stringContent.eq_def]
  simp [hunit, hlow]

/-- The first half of a surrogate pair, with an escape by number behind it. -/
theorem stringContent_pair {l₁ l₂ l₃ l₄ : UInt8} {low : Nat}
    (hsecond : hexUnit? l₁ l₂ l₃ l₄ = some low) (hlow : isLowSurrogate unit = false)
    (hhigh : isHighSurrogate unit = true) :
    stringContent (0x5c :: 0x75 :: h₁ :: h₂ :: h₃ :: h₄ :: 0x5c :: 0x75 :: l₁ :: l₂ :: l₃ ::
      l₄ :: rest) =
      if isLowSurrogate low then prepend (codePoint (surrogatePair unit low))
        (stringContent rest)
      else .error .syntactic := by
  conv_lhs => rw [stringContent.eq_def]
  simp [hunit, hsecond, hlow, hhigh]

/-- The first half of a surrogate pair does not come without an escape by number behind it. -/
theorem stringContent_highSurrogate {b : UInt8} (hlow : isLowSurrogate unit = false)
    (hhigh : isHighSurrogate unit = true) (hb : b ≠ 0x5c ∨ ∀ u ∈ rest.head?, u ≠ 0x75) :
    ∃ fault, stringContent (0x5c :: 0x75 :: h₁ :: h₂ :: h₃ :: h₄ :: b :: rest) =
      .error fault := by
  rw [stringContent.eq_def]
  simp only [hunit, hlow, hhigh]
  by_cases hslash : b = 0x5c
  · have hu := hb.resolve_left (not_not.2 hslash)
    cases rest with
    | nil => simp [hslash]
    | cons u rest => simp [hslash, hu u rfl]
  · simp [hslash]

end Units

/-- A string piece by piece. -/
theorem octets_cons (p : StringPiece) (s : StringText) :
    StringText.octets (p :: s) = p.octets ++ StringText.octets s := rfl

/-- The content of a string is read up to its closing quotation mark. -/
theorem finds_stringContent (s : StringText) (rest : Bytes) :
    Finds (stringContent (s.octets ++ 0x22 :: rest)) s.content? rest := by
  fun_induction StringText.content? s with
  | case1 =>
    rw [stringContent.eq_def]
    rfl
  | case2 b plain s ih =>
    obtain ⟨hlow, hquote, hslash⟩ := plain
    have hplain : ∀ d ∈ [b], 0x20 ≤ d.toNat ∧ d ≠ 0x22 ∧ d ≠ 0x5c := by
      intro d hd
      obtain rfl := List.mem_singleton.1 hd
      exact ⟨UInt8.le_iff_toNat_le.1 hlow, hquote, hslash⟩
    have hread := stringContent_append hplain (StringText.octets s ++ 0x22 :: rest)
    rw [octets_cons, List.append_assoc]
    exact hread ▸ ih.prepend [b]
  | case3 e octet escape s ih =>
    have hread := stringContent_simpleEscape escape (StringText.octets s ++ 0x22 :: rest)
    rw [octets_cons, List.append_assoc]
    exact hread ▸ ih.prepend [octet]
  | case4 h₁ h₂ h₃ h₄ n digits s hlow =>
    have hread := stringContent_lowSurrogate digits (StringText.octets s ++ 0x22 :: rest) hlow
    rw [octets_cons, List.append_assoc]
    exact congrArg Except.toOption hread
  | case5 h₁ h₂ h₃ h₄ n digits hlow hhigh l₁ l₂ l₃ l₄ low second s hpair ih =>
    have hread := stringContent_pair digits (StringText.octets s ++ 0x22 :: rest) second
      (Bool.not_eq_true _ ▸ hlow) hhigh
    rw [if_pos hpair] at hread
    rw [octets_cons, octets_cons, List.append_assoc, List.append_assoc]
    exact hread ▸ ih.prepend _
  | case6 h₁ h₂ h₃ h₄ n digits hlow hhigh l₁ l₂ l₃ l₄ low second s hpair =>
    have hread := stringContent_pair digits (StringText.octets s ++ 0x22 :: rest) second
      (Bool.not_eq_true _ ▸ hlow) hhigh
    rw [if_neg hpair] at hread
    rw [octets_cons, octets_cons, List.append_assoc, List.append_assoc]
    exact congrArg Except.toOption hread
  | case7 h₁ h₂ h₃ h₄ n digits s hlow hhigh hnone =>
    have hfails : ∃ fault, stringContent
        (0x5c :: 0x75 :: h₁ :: h₂ :: h₃ :: h₄ :: (StringText.octets s ++ 0x22 :: rest)) =
          .error fault := by
      have hlow : isLowSurrogate n = false := Bool.not_eq_true _ ▸ hlow
      cases s with
      | nil => exact stringContent_highSurrogate digits _ hlow hhigh (.inl (by decide))
      | cons p s =>
        cases p with
        | octet b plain =>
          exact stringContent_highSurrogate digits _ hlow hhigh (.inl plain.2.2)
        | letter e octet escape =>
          refine stringContent_highSurrogate digits _ hlow hhigh (.inr ?_)
          intro u hu
          obtain rfl : e = u := Option.some.inj hu
          intro he
          rw [he] at escape
          cases escape
        | unit l₁ l₂ l₃ l₄ low second => exact absurd rfl (hnone _ _ _ _ _ _ _)
    obtain ⟨fault, hfault⟩ := hfails
    rw [octets_cons, List.append_assoc]
    exact congrArg Except.toOption hfault
  | case8 h₁ h₂ h₃ h₄ n digits s hlow hhigh ih =>
    have hread :=
      stringContent_scalar digits (Bool.not_eq_true _ ▸ hlow) (Bool.not_eq_true _ ▸ hhigh)
      (StringText.octets s ++ 0x22 :: rest)
    rw [octets_cons, List.append_assoc]
    exact hread ▸ ih.prepend _

/-- A string is read up to its closing quotation mark. -/
theorem finds_string (s : StringText) (rest : Bytes) :
    Finds (string (s.octets ++ 0x22 :: rest)) s.text? rest := by
  have hcontent := finds_stringContent s rest
  rw [string, StringText.text?]
  rcases hcontent.none_or_some with ⟨hc, fault, hr⟩ | ⟨content, hc, hr⟩
  · rw [hc, hr]
    rfl
  · rw [hc, hr, Option.bind_some, Finds]
    cases hs : Utf8.decode? content <;> simp [hs] <;> rfl

/-! ## Numbers -/

section Numbers

variable {rest : Bytes}

theorem isDigit_head?_of_endsNumber (h : EndsNumber rest) :
    ∀ b ∈ rest.head?, isDigit b = false :=
  fun b hb => (h b hb).1

/-- The octets of digits start with one. -/
theorem Digits.exists_cons (ds : Digits) :
    ∃ d rest, ds.octets = d :: rest ∧ Parse.isDigit d = true := by
  obtain ⟨octets, hne, hdigit⟩ := ds
  cases octets with
  | nil => exact absurd rfl hne
  | cons d rest => exact ⟨d, rest, rfl, hdigit d List.mem_cons_self⟩

/-- Digits are read up to anything else. -/
theorem digits_octets (ds : Digits) (hr : ∀ b ∈ rest.head?, isDigit b = false) :
    digits (ds.octets ++ rest) = (ds.octets, rest) :=
  digits_append ds.isDigit hr

/-- An exponent scales the significand. -/
theorem exponentPart_octets (negative : Bool) (significand : Nat) (exponent : Int)
    (e : ExponentText) (hr : ∀ b ∈ rest.head?, isDigit b = false) :
    exponentPart negative significand exponent (e.signOctets ++ (e.digits.octets ++ rest)) =
      (floating negative significand (exponent + e.value)).map (·, rest) := by
  have hdigits := digits_octets e.digits hr
  obtain ⟨d, ds, hd, hdigit⟩ := Digits.exists_cons e.digits
  have hplus : d ≠ 0x2b := ne_of_isDigit hdigit (by decide)
  have hminus : d ≠ 0x2d := ne_of_isDigit hdigit (by decide)
  rw [ExponentText.value, ExponentText.signOctets]
  rw [hd, List.cons_append] at hdigits ⊢
  rcases e.sign with _ | _ | _
  · simp [exponentPart, hplus, hminus, hdigit, hdigits]
  · simp [exponentPart, hdigit, hdigits]
  · simp [exponentPart, hdigit, hdigits, Int.sub_eq_add_neg]

/-- Neither a digit nor a point stands where there may be an exponent. -/
theorem head?_exponent (e : Option ExponentText) (h : EndsNumber rest) :
    ∀ b ∈ (e.elim [] ExponentText.octets ++ rest).head?, isDigit b = false ∧ b ≠ 0x2e := by
  intro b hb
  cases e with
  | some e =>
    obtain rfl : (if e.capital then 0x45 else 0x65) = b := Option.some.inj hb
    cases e.capital <;> decide
  | none =>
    obtain ⟨hdigit, hpoint, -⟩ := h b hb
    exact ⟨hdigit, hpoint⟩

/-- The octets behind the whole part of a number are no digits. -/
theorem not_isDigit_tailOctets (n : NumberText) (h : EndsNumber rest) :
    ∀ b ∈ (n.tailOctets ++ rest).head?, isDigit b = false := by
  intro b hb
  cases hf : n.fraction with
  | some ds =>
    rw [NumberText.tailOctets, hf] at hb
    obtain rfl : 0x2e = b := Option.some.inj hb
    decide
  | none =>
    rw [NumberText.tailOctets, hf] at hb
    exact (head?_exponent n.exponent h b hb).1

/-- A fraction is read, with the exponent behind it. -/
theorem fractionPart_octets (negative : Bool) (significand : Nat) (exponent : Int)
    (ds : Digits) (e : Option ExponentText) (h : EndsNumber rest) :
    fractionPart negative significand exponent (ds.octets ++
      (e.elim [] ExponentText.octets ++ rest)) =
      (floating negative (accumulate significand ds.octets).1
        (exponent - (ds.octets.length - (accumulate significand ds.octets).2 : Nat) +
          e.elim 0 ExponentText.value)).map (·, rest) := by
  have hdigits := digits_octets ds fun b hb => (head?_exponent e h b hb).1
  obtain ⟨d, ds', hd, -⟩ := Digits.exists_cons ds
  rw [fractionPart, hdigits, hd]
  cases e with
  | none =>
    cases rest with
    | nil => simp
    | cons b rest =>
      obtain ⟨-, -, hsmall, hlarge⟩ := h b rfl
      simp [hsmall, hlarge]
  | some e =>
    have hread := fun s x =>
        exponentPart_octets negative s x e (isDigit_head?_of_endsNumber h)
    simp only [Option.elim_some, ExponentText.octets, List.cons_append, List.append_assoc]
    cases e.capital <;> simp [hread]

/-- A zero in front of a number stands alone. -/
theorem NumberText.exists_whole (n : NumberText) :
    ∃ d ds, n.whole.octets = d :: ds ∧ (d = 0x30 && !ds.isEmpty) = false := by
  obtain ⟨d, ds, hd, -⟩ := Digits.exists_cons n.whole
  refine ⟨d, ds, hd, ?_⟩
  by_cases hzero : d = 0x30
  · have hwhole := n.leading (by rw [hd, hzero]; rfl)
    rw [hd] at hwhole
    simp [(List.cons.inj hwhole).2]
  · simp [hzero]

/-- A number is read up to anything that it could not go on with. -/
theorem finds_number (n : NumberText) (h : EndsNumber rest) :
    Finds (number n.negative (n.unsignedOctets ++ rest)) n.value? rest := by
  have hdigits := digits_octets n.whole (not_isDigit_tailOctets n h)
  obtain ⟨d, ds, hd, hzero⟩ := NumberText.exists_whole n
  rw [NumberText.unsignedOctets, List.append_assoc, number, hdigits, hd]
  simp only [hzero]
  rw [← hd, NumberText.value?, NumberText.tailOctets]
  cases n.fraction with
  | none =>
    cases n.exponent with
    | none =>
      refine .of_eq_map ?_
      cases rest with
      | nil => simp
      | cons b rest =>
        obtain ⟨-, hpoint, hsmall, hlarge⟩ := h b rfl
        simp [hpoint, hsmall, hlarge]
    | some e =>
      have hread := fun s x =>
          exponentPart_octets n.negative s x e (isDigit_head?_of_endsNumber h)
      refine .of_eq_map ?_
      simp only [Option.elim_none, Option.elim_some, ExponentText.octets, List.nil_append,
        List.cons_append, List.append_assoc]
      cases e.capital <;> simp [hread]
  | some ds =>
    have hread := fun s x => fractionPart_octets n.negative s x ds n.exponent h
    refine .of_eq_map ?_
    simp [hread]

end Numbers

end BalancerClient.Json.Parse
