import BalancerClient.Proofs.Http.Origin
import BalancerClient.Proofs.Json.Octets

/-!
# Where the host of a URL ends

What stands between the slashes behind the scheme and the first slash, question mark or number
sign names the user, the host and the port.  A domain at its end is that of the host: no part
of it is read as a user or as a port, and reading the host keeps it.  What stands behind that
place has no influence on the host.

## Main definitions

* `Host.IsInDomain` - a host is a name that ends with a domain.
* `Host.IsDomain` - a domain as it may stand at the end of a host.

## Main statements

* `Host.IsDomain.isInDomain_ofChars` - a host that is written with a domain at its end is in
  that domain.
* `Url.isInDomain_readAuthority` - so is the host of a URL.
* `Url.readAuthority_eq_map` - what stands behind the authority is carried over, and has no
  other influence.
* `Url.readAuthority_user` - a user in front of the host is kept, and has no other influence.
-/

namespace BalancerClient

/-! ## Percent-encoding -/

theorem Hex.octet?_point (high : Char) : Hex.octet? high '.' = none := by
  have hlow : Hex.value? '.' = none := by decide
  rw [Hex.octet?, hlow]
  cases Hex.value? high <;> rfl

/-- A percent sign that no two digits follow stands for itself. -/
theorem percentDecode_of_octet?_eq_none {high low : Char} (h : Hex.octet? high low = none)
    (rest : List Char) :
    percentDecode ('%' :: high :: low :: rest) = 0x25 ::
      percentDecode (high :: low :: rest) := by
  rw [percentDecode, h]

/-- A point ends a percent-encoded octet, so what stands in front of it is decoded by
itself. -/
theorem percentDecode_append_point (front rest : List Char) :
    percentDecode (front ++ '.' :: rest) = percentDecode front ++
      percentDecode ('.' :: rest) := by
  fun_induction percentDecode front with
  | case1 => rfl
  | case2 high low more b hb ih => simp [percentDecode, hb, ih]
  | case3 high low more hb ih =>
    exact (percentDecode_of_octet?_eq_none hb _).trans (congrArg (0x25 :: ·) ih)
  | case4 c more hc ih =>
    by_cases hpercent : c = '%'
    · -- fewer than two characters are left in front of the point
      subst hpercent
      cases more with
      | nil =>
        cases rest with
        | nil => rfl
        | cons low rest => exact percentDecode_of_octet?_eq_none rfl rest
      | cons high more =>
        cases more with
        | nil =>
          exact (percentDecode_of_octet?_eq_none (Hex.octet?_point high) rest).trans
            (congrArg (0x25 :: ·) ih)
        | cons low more => exact (hc high low more rfl rfl).elim
    · rw [List.cons_append, percentDecode_cons hpercent, ih, List.append_assoc]

/-- A text that is decoded from octets with those of ASCII characters at their end ends with
these. -/
theorem Utf8.exists_of_decode?_append {front : Bytes} {back : List Char} {s : String}
    (hback : ∀ c ∈ back, c.toNat < 128)
    (h : decode? (front ++ back.flatMap String.utf8EncodeChar) = some s) :
    ∃ cs, s.toList = cs ++ back := by
  have hbegins : BeginsAscii (octets back) := by
    cases back with
    | nil => exact fun b hb => nomatch hb
    | cons c back =>
      have hc := hback c List.mem_cons_self
      intro b hb
      rw [octets_cons, utf8EncodeChar_of_lt hc] at hb
      obtain rfl := Option.some.inj hb
      simp only [UInt8.toNat_ofNat']
      omega
  have htext : IsText (front ++ octets back) :=
    (isSome_decode?_iff _).1 (by rw [octets, h]; rfl)
  obtain ⟨⟨cs, rfl⟩, -⟩ := htext.of_beginsAscii hbegins
  refine ⟨cs, ?_⟩
  change decode? (octets cs ++ octets back) = some s at h
  rw [← octets_append, octets, ← encode_ofList, decode?_encode, Option.some.injEq] at h
  rw [← h, String.toList_ofList]

/-! ## Hosts -/

namespace Host

/-- A host is a name that ends with a domain. -/
def IsInDomain (domain : List Char) (host : Option Host) : Prop :=
  ∃ name, host = some (.domain name) ∧ domain <:+ name

/-- A domain as it may stand at the end of a host: it starts with a point and is in canonical
form, its last label is not a number, and no character in it has a part in the syntax of
URLs. -/
structure IsDomain (domain : List Char) : Prop where
  point : ∃ labels, domain = '.' :: labels
  canonical : Domain.chars? domain = some domain
  label : ∃ label, (Text.pieces (· == '.') domain).getLast? = some label ∧ label ≠ [] ∧
    label.all Char.isDigit = false ∧ Ipv4.number? label = none
  letter : ∃ c ∈ domain, c.isDigit = false
  ascii : ∀ c ∈ domain, c.toNat < 128
  plain : ∀ c ∈ domain, c ≠ '%' ∧ c ≠ '@' ∧ c ≠ ':' ∧ c ≠ ']' ∧ c ≠ '\\'

namespace IsDomain

variable {domain : List Char} (h : IsDomain domain)

include h

/-- The canonical form of a name ends with the domain that the name ends with. -/
theorem suffix_of_domainName? {front name : List Char}
    (hname : domainName? (front ++ domain) = some name) : domain <:+ name := by
  have hplain : ∀ c ∈ domain, c ≠ '%' := fun c hc => (h.plain c hc).1
  have hoctets : percentDecode (front ++ domain) =
      percentDecode front ++ domain.flatMap String.utf8EncodeChar := by
    rw [← percentDecode_of_forall hplain]
    obtain ⟨labels, hpoint⟩ := h.point
    rw [hpoint, percentDecode_append_point]
  simp only [domainName?, hoctets, Option.bind_eq_bind, Option.bind_eq_some_iff] at hname
  obtain ⟨text, htext, hcanonical⟩ := hname
  obtain ⟨cs, hcs⟩ := Utf8.exists_of_decode?_append h.ascii htext
  simp only [Domain.ofChars?, hcs, Domain.chars?_append, h.canonical, Option.map_some,
    Option.bind_eq_bind, Option.bind_eq_some_iff, Option.some.injEq] at hcanonical
  obtain ⟨canonical, ⟨x, -, rfl⟩, hlabels⟩ := hcanonical
  split at hlabels
  · obtain rfl := Option.some.inj hlabels
    exact List.suffix_append x domain
  · cases hlabels

/-- The last label of a name that ends with a domain is that of the domain. -/
theorem getLast?_pieces_append (front : List Char) :
    (Text.pieces (· == '.') (front ++ domain)).getLast? =
      (Text.pieces (· == '.') domain).getLast? := by
  obtain ⟨labels, rfl⟩ := h.point
  have hne := Text.pieces_ne_nil (· == '.') labels
  have hcut : ∀ cs : List Char, (Text.pieces (· == '.') (cs ++ '.' :: labels)).getLast? =
      (Text.pieces (· == '.') labels).getLast? := by
    intro cs
    rw [@Text.pieces_append (· == '.') '.' rfl, List.getLast?_append,
      List.getLast?_eq_some_getLast hne, Option.some_or]
  rw [hcut front, ← hcut []]
  rfl

/-- A name that ends with a domain is not meant as an address. -/
theorem isMeant_append (front : List Char) : Ipv4.isMeant (front ++ domain) = false := by
  obtain ⟨label, hlast, hne, hdigits, hnumber⟩ := h.label
  have hpieces := h.getLast?_pieces_append front
  rw [hlast] at hpieces
  have hparts : Ipv4.parts (front ++ domain) = Text.pieces (· == '.') (front ++ domain) := by
    simp only [Ipv4.parts, hpieces, Option.some.injEq, if_neg hne]
  simp [Ipv4.isMeant, hparts, hpieces, hdigits, hnumber]

/-- A bracket at the start of a name that ends with a domain is not closed at its end. -/
theorem eq_nil_of_bracketed? {front inner : List Char}
    (hinner : bracketed? (front ++ domain) = some inner) : inner = [] := by
  obtain ⟨labels, hpoint⟩ := h.point
  cases front with
  | nil => simp [hpoint, bracketed?] at hinner
  | cons c front =>
    by_cases hc : c = '['
    · subst hc
      have hlast : (front ++ domain).getLast? ≠ some ']' := by
        have hne : domain ≠ [] := by simp [hpoint]
        rw [List.getLast?_append, List.getLast?_eq_some_getLast hne, Option.some_or]
        intro heq
        exact (h.plain _ (List.getLast_mem hne)).2.2.2.1 (Option.some.inj heq)
      rw [List.cons_append, bracketed?, if_neg hlast] at hinner
      exact (Option.some.inj hinner).symm
    · simp [bracketed?, hc] at hinner

/-- A host that is written with a domain at its end is in that domain. -/
theorem isInDomain_ofChars {front : List Char} {host : Host}
    (hhost : ofChars (front ++ domain) = .ok host) : IsInDomain domain (some host) := by
  obtain ⟨labels, hpoint⟩ := h.point
  rw [ofChars] at hhost
  cases hbracket : bracketed? (front ++ domain) with
  | some inner =>
    obtain rfl := h.eq_nil_of_bracketed? hbracket
    have hempty : ofBrackets [] = .error .badIpv6 := rfl
    simp [hbracket, hempty] at hhost
  | none =>
    cases hname : domainName? (front ++ domain) with
    | none => simp [hbracket, hname] at hhost
    | some name =>
      have hsuffix := h.suffix_of_domainName? hname
      simp only [hbracket, hname] at hhost
      obtain ⟨x, rfl⟩ := hsuffix
      have hnonempty : (x ++ domain).isEmpty = false := by simp [hpoint]
      simp only [ofDomain, hnonempty, h.isMeant_append, Bool.false_eq_true, if_false,
        Except.ok.injEq] at hhost
      exact ⟨x ++ domain, by rw [hhost], List.suffix_append x domain⟩

end IsDomain

end Host

/-! ## Users and ports -/

namespace Url

/-- What has no at sign is behind the last one. -/
theorem behind_append {back : List Char} (h : '@' ∉ back) (cs : List Char) :
    ((cs ++ back).reverse.takeWhile (· != '@')).reverse =
      (cs.reverse.takeWhile (· != '@')).reverse ++ back := by
  have hback : ∀ c ∈ back.reverse, (c != '@') = true := by
    intro c hc
    rw [bne_iff_ne]
    intro hat
    exact h (hat ▸ List.mem_reverse.1 hc)
  rw [List.reverse_append, List.takeWhile_append_of_pos hback, List.reverse_append,
    List.reverse_reverse]

/-- What has no at sign is left when the user is cut off in front of it. -/
theorem exists_cutUser_append {back : List Char} (h : '@' ∉ back) (cs : List Char) :
    ∃ user front, front <:+ cs ∧ cutUser (cs ++ back) = (user, front ++ back) := by
  have hsuffix : (cs.reverse.takeWhile (· != '@')).reverse <:+ cs := by
    simpa using (List.takeWhile_prefix (· != '@') (l := cs.reverse)).reverse
  simp only [cutUser, behind_append h cs]
  split
  · exact ⟨_, _, hsuffix, rfl⟩
  · exact ⟨_, _, List.suffix_refl cs, rfl⟩

/-- The user in front of an at sign, and what is behind it. -/
theorem cutUser_append {place : List Char} (h : '@' ∉ place) (user : List Char) :
    cutUser (user ++ '@' :: place) = (some user, place) := by
  have hbehind : ((user ++ '@' :: place).reverse.takeWhile (· != '@')).reverse = place := by
    have hmark := behind_append h (user ++ ['@'])
    rw [List.append_assoc] at hmark
    simpa using hmark
  have hmem : '@' ∈ user ++ '@' :: place := by simp
  have hlength : (user ++ '@' :: place).length - place.length - 1 = user.length := by
    simp only [List.length_append, List.length_cons]
    omega
  simp only [cutUser, List.contains_iff_mem, hmem, if_true, hbehind, hlength, List.take_left']

theorem cutPort_of_notMem {back : List Char} (h : ':' ∉ back) (inside : Bool) :
    cutPort inside back = (back, none) := by
  induction back generalizing inside with
  | nil => rfl
  | cons c back ih =>
    obtain ⟨hc, hback⟩ := not_or.1 (mt List.mem_cons.2 h)
    rw [cutPort, if_neg fun hcolon => hc hcolon.1.symm, ih hback]

/-- What has no colon is either at the end of the host, or at the end of the port. -/
theorem exists_cutPort_append {back : List Char} (h : ':' ∉ back) (inside : Bool)
    (cs : List Char) : cutPort inside (cs ++ back) = (cs ++ back, none) ∨
      ∃ host front, front <:+ cs ∧ cutPort inside (cs ++ back) =
        (host, some (front ++ back)) := by
  induction cs generalizing inside with
  | nil => exact .inl (cutPort_of_notMem h inside)
  | cons c cs ih =>
    rw [List.cons_append, cutPort]
    split
    · exact .inr ⟨[], cs, List.suffix_cons c cs, rfl⟩
    · rcases ih (c == '[' || (inside && c != ']')) with hcut | ⟨host, front, hsuffix, hcut⟩
      · exact .inl (by rw [hcut])
      · exact .inr ⟨c :: host, front, hsuffix.trans (List.suffix_cons c cs), by rw [hcut]⟩

/-- A port with a character that is no digit cannot be read. -/
theorem readPort_of_mem {cs : List Char} {c : Char} (hc : c ∈ cs)
    (hdigit : c.isDigit = false) : readPort cs = .error .badPort := by
  have hall : cs.all Char.isDigit = false := by
    rw [List.all_eq_false]
    exact ⟨c, hc, by simp [hdigit]⟩
  simp [readPort, hall]

variable {domain : List Char}

/-- The host of a URL whose authority ends with a domain is in that domain. -/
theorem isInDomain_readAuthority (h : Host.IsDomain domain) (scheme : String)
    {cs : List Char} {u : Url} (hplain : ∀ c ∈ cs ++ domain, endsAuthority .network c = false)
    (hu : readAuthority scheme .network (cs ++ domain) = .ok u) :
    Host.IsInDomain domain u.host := by
  obtain ⟨user, place, hplace, huser⟩ :=
    exists_cutUser_append (fun hat => (h.plain _ hat).2.1 rfl) cs
  rw [← List.append_nil (cs ++ domain), readAuthority_eq scheme hplain (by simp), huser] at hu
  rcases exists_cutPort_append (fun hcolon => (h.plain _ hcolon).2.2.1 rfl) false place with
    hcut | ⟨hostText, front, hfront, hcut⟩
  · -- the domain is at the end of the host
    obtain ⟨labels, hpoint⟩ := h.point
    have hempty : (place ++ domain).isEmpty = false := by simp [hpoint]
    cases hhost : Host.ofChars (place ++ domain) with
    | error fault => simp [hcut, readHost, hempty, hhost, Except.bind, Except.map] at hu
    | ok host =>
      have hport : readPort [] = .ok none := rfl
      simp only [hcut, readHost, hempty, hhost, Option.getD_none, List.takeWhile_nil, hport,
        Except.bind,
        Except.map, ne_eq, not_true_eq_false, and_false, if_false, Bool.false_eq_true,
        Option.isNone_some, Option.isSome_none, false_and, Except.ok.injEq] at hu
      rw [← hu]
      exact h.isInDomain_ofChars hhost
  · -- the domain is at the end of the port, which is refused
    have hmem : ∀ c ∈ front ++ domain, (c != '\\') = true := by
      intro c hc
      have hsub : c ∈ cs ++ domain := by
        rcases List.mem_append.1 hc with hc | hc
        · exact List.mem_append_left domain ((hfront.trans hplace).subset hc)
        · exact List.mem_append_right cs hc
      rw [bne_iff_ne]
      intro hmark
      exact absurd (hmark ▸ hplain c hsub) (by decide)
    obtain ⟨c, hc, hdigit⟩ := h.letter
    have hport := readPort_of_mem (List.mem_append_right front hc) hdigit
    have htake : (front ++ domain).takeWhile (· != '\\') = front ++ domain :=
      List.takeWhile_eq_self_iff.2 hmem
    cases hhost : readHost .network hostText with
    | error fault => simp [hcut, hhost, Except.bind] at hu
    | ok host =>
      simp only [hcut, hhost, Option.getD_some, htake, hport, Except.bind, ne_eq,
        not_true_eq_false, and_false, if_false] at hu
      split at hu
      · cases hu
      · cases hu

/-- What stands behind the authority has no influence on the host and the port. -/
theorem readAuthority_eq_map (scheme : String) {kind : SchemeKind}
    {authority rest : List Char} (rest' : List Char)
    (hplain : ∀ c ∈ authority, endsAuthority kind c = false)
    (hrest : ∀ c ∈ rest.head?, endsAuthority kind c = true) (hne : rest ≠ [])
    (hrest' : ∀ c ∈ rest'.head?, endsAuthority kind c = true) (hne' : rest' ≠ []) :
    readAuthority scheme kind (authority ++ rest) =
      (readAuthority scheme kind (authority ++ rest')).map fun u =>
        { u with rest := rest } := by
  rw [readAuthority_eq scheme hplain hrest, readAuthority_eq scheme hplain hrest']
  simp only [ne_eq, hne, hne', not_false_eq_true, and_true]
  split
  · rfl
  · cases readHost kind (cutPort false (cutUser authority).2).1 with
    | error fault => rfl
    | ok host =>
      simp only [Except.bind]
      split
      · rfl
      · cases readPort (((cutPort false (cutUser authority).2).2.getD []).takeWhile
          (· != '\\')) with
        | error fault => rfl
        | ok port =>
          simp only
          split
          · rfl
          · rfl

theorem readHost_network_ne_none {cs : List Char} {host : Option Host}
    (h : readHost .network cs = .ok host) : host ≠ none := by
  simp only [readHost] at h
  split at h
  · cases h
  · cases hhost : Host.ofChars cs with
    | error fault =>
      rw [hhost] at h
      cases h
    | ok found =>
      rw [hhost] at h
      obtain rfl := Except.ok.inj h
      exact Option.some_ne_none found

/-- A user in front of the host is kept, and has no influence on the host and the port. -/
theorem readAuthority_user (scheme : String) {user place rest : List Char}
    (hne : user ≠ []) (huser : ∀ c ∈ user, endsAuthority .network c = false)
    (hplace : ∀ c ∈ place, c ≠ '@' ∧ endsAuthority .network c = false)
    (hrest : ∀ c ∈ rest.head?, endsAuthority .network c = true) :
    readAuthority scheme .network (user ++ '@' :: place ++ rest) =
      (readAuthority scheme .network (place ++ rest)).map fun u =>
        { u with user := user } := by
  have hat : '@' ∉ place := fun hmem => (hplace _ hmem).1 rfl
  have hplain : ∀ c ∈ user ++ '@' :: place, endsAuthority .network c = false := by
    intro c hc
    rcases List.mem_append.1 hc with hc | hc
    · exact huser c hc
    · rcases List.mem_cons.1 hc with rfl | hc
      · rfl
      · exact (hplace c hc).2
  have hnone : cutUser place = (none, place) := by simp [cutUser, hat]
  rw [readAuthority_eq scheme hplain hrest,
    readAuthority_eq scheme (fun c hc => (hplace c hc).2) hrest,
    cutUser_append hat, hnone]
  simp only [Option.some.injEq, hne, false_and, if_false]
  cases hhost : readHost .network (cutPort false place).1 with
  | error fault => rfl
  | ok host =>
    have hsome := readHost_network_ne_none hhost
    simp only [Except.bind, Option.isNone_iff_eq_none, hsome, false_and, if_false,
      Option.getD_some]
    cases readPort (((cutPort false place).2.getD []).takeWhile (· != '\\')) with
    | error fault => rfl
    | ok port => rfl

end Url

end BalancerClient
