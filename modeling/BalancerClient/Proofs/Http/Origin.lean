import BalancerClient.Client.Settings
import BalancerClient.Http.Message
import BalancerClient.Proofs.Http.Path

/-!
# Requests to an origin

An origin is a scheme, a host and perhaps a port, with nothing behind them.  Its text is an
endpoint, whatever slashes are put behind it, and a path that is put behind the endpoint is
read as what follows the host.

## Main definitions

* `Origin` - a scheme of the web and what names the host and the port.

## Main statements

* `Origin.parse_append` - a path behind an origin is what follows its host.
* `Origin.trimSlashes_append` - slashes behind an origin do not count.
* `Origin.exists_parse_append` - what is asked of an origin by way of a plain path.
-/

namespace BalancerClient

/-- An endpoint that consists of an origin. -/
structure Origin where
  scheme : List Char
  /-- The host, and the port behind a colon if there is one. -/
  authority : List Char
  isAlpha_scheme : ∀ c ∈ scheme, c.isAlpha = true
  /-- The scheme is one of the web, whatever the case of its letters. -/
  isWeb : ["http", "https"].contains (String.ofList (scheme.map Char.toLower)) = true
  /-- Nothing in the authority ends it, names a user or is passed over. -/
  plain : ∀ c ∈ authority, 32 < c.toNat ∧ c ≠ '@' ∧ Url.endsAuthority .network c = false
  /-- The host and the port are valid. -/
  accepted : ∃ u, Url.parse (String.ofList (scheme ++ ':' :: '/' :: '/' :: authority)) = .ok u

/-! ## Reading texts without blanks -/

namespace Url

theorem dropWhile_of_head? {p : Char → Bool} {cs : List Char}
    (h : ∀ c ∈ cs.head?, p c = false) : cs.dropWhile p = cs := by
  cases cs with
  | nil => rfl
  | cons c rest => simp [h c rfl]

/-- Whether a character inside a URL counts: tabs and line breaks are passed over. -/
def isKept (c : Char) : Bool := !(c == '\t' || c == '\n' || c == '\r')

theorem isKept_of_lt {c : Char} (h : 32 < c.toNat) : isKept c = true := by
  have hne : ∀ d : Char, d.toNat ≤ 32 → c ≠ d := by
    intro d hd he
    subst he
    omega
  simp [isKept, hne '\t' (by decide), hne '\n' (by decide), hne '\r' (by decide)]

theorem isKept_of_endsAuthority {kind : SchemeKind} {c : Char}
    (h : endsAuthority kind c = true) : isKept c = true := by
  simp only [endsAuthority, Bool.or_eq_true, Bool.and_eq_true, beq_iff_eq] at h
  rcases h with ((rfl | rfl) | rfl) | ⟨rfl, -⟩
  · rfl
  · rfl
  · rfl
  · rfl

/-- A text between visible characters loses only tabs and line breaks. -/
theorem clean_of_ends {cs : List Char} (hfirst : ∀ c ∈ cs.head?, 32 < c.toNat)
    (hlast : ∀ c ∈ cs.getLast?, 32 < c.toNat) : clean cs = cs.filter isKept := by
  have htrim : ∀ cs : List Char, (∀ c ∈ cs.head?, 32 < c.toNat) →
      cs.dropWhile (fun c => decide (c.toNat ≤ 32)) = cs := by
    intro cs hcs
    apply dropWhile_of_head?
    intro c hc
    simpa using hcs c hc
  have hreverse : ∀ c ∈ cs.reverse.head?, 32 < c.toNat := by
    rw [List.head?_reverse]
    exact hlast
  simp only [clean, htrim cs hfirst, htrim cs.reverse hreverse, List.reverse_reverse]
  rfl

/-- A text of visible characters is clean. -/
theorem clean_of_forall {cs : List Char} (h : ∀ c ∈ cs, 32 < c.toNat) : clean cs = cs := by
  rw [clean_of_ends (fun c hc => h c (List.mem_of_mem_head? hc)) fun c hc =>
    h c (List.mem_of_getLast? hc), List.filter_eq_self]
  intro c hc
  exact isKept_of_lt (h c hc)

theorem lt_toNat_of_isAlpha {c : Char} (h : c.isAlpha = true) : 32 < c.toNat := by
  have hcase : c.isUpper = true ∨ c.isLower = true := Bool.or_eq_true_iff.1 h
  have hval : c.val.toNat = c.toNat := rfl
  rcases hcase with hupper | hlower
  · have hA : 'A'.val ≤ c.val := (of_decide_eq_true hupper).1
    have h65 : 65 ≤ c.val.toNat := UInt32.le_iff_toNat_le.1 hA
    omega
  · have ha : 'a'.val ≤ c.val := of_decide_eq_true (Bool.and_eq_true_iff.1 hlower).1
    have h97 : 97 ≤ c.val.toNat := UInt32.le_iff_toNat_le.1 ha
    omega

/-- The scheme of a text that starts with letters and a colon. -/
theorem scheme?_append {scheme : List Char} (hne : scheme ≠ [])
    (halpha : ∀ c ∈ scheme, c.isAlpha = true) (rest : List Char) :
    scheme? (scheme ++ ':' :: rest) =
      some (String.ofList (scheme.map Char.toLower), rest) := by
  have hchar : ∀ c ∈ scheme, isSchemeChar c = true := by
    intro c hc
    simp [isSchemeChar, Char.isAlphanum, halpha c hc]
  have hcolon : isSchemeChar ':' = false := by decide
  have htake : (scheme ++ ':' :: rest).takeWhile isSchemeChar = scheme := by
    rw [List.takeWhile_append_of_pos hchar, List.takeWhile_cons, hcolon]
    simp
  have hdrop : (scheme ++ ':' :: rest).dropWhile isSchemeChar = ':' :: rest := by
    rw [List.dropWhile_append_of_pos hchar, List.dropWhile_cons, hcolon]
    simp
  cases scheme with
  | nil => exact absurd rfl hne
  | cons c cs =>
    rw [List.cons_append] at htake hdrop ⊢
    rw [scheme?, htake, hdrop]
    simp [halpha c List.mem_cons_self]

/-- Slashes are passed over only where one stands first. -/
theorem dropWhile_isSlash {cs : List Char}
    (h : ∀ c ∈ cs.head?, endsAuthority .network c = false) :
    cs.dropWhile isSlash = cs := by
  apply dropWhile_of_head?
  intro c hc
  have hkind : (SchemeKind.network != .other) = true := rfl
  have hends := h c hc
  simp only [endsAuthority, hkind, Bool.and_true, Bool.or_eq_false_iff] at hends
  rw [isSlash, hends.1.1.1, hends.2]
  rfl

/-- What stands in front of the first mark is the authority. -/
theorem takeWhile_authority {kind : SchemeKind} {authority rest : List Char}
    (hplain : ∀ c ∈ authority, endsAuthority kind c = false)
    (hrest : ∀ c ∈ rest.head?, endsAuthority kind c = true) :
    (authority ++ rest).takeWhile (fun c => !endsAuthority kind c) = authority ∧
      (authority ++ rest).dropWhile (fun c => !endsAuthority kind c) = rest := by
  have hend : ∀ c ∈ authority, (!endsAuthority kind c) = true := by
    intro c hc
    rw [hplain c hc]
    rfl
  rw [List.takeWhile_append_of_pos hend, List.dropWhile_append_of_pos hend]
  cases rest with
  | nil => simp
  | cons c rest => simp [hrest c rfl]

/-- How an authority is read: the user is cut off, then the port, and each of them may be
refused. -/
theorem readAuthority_eq (scheme : String) {kind : SchemeKind} {authority rest : List Char}
    (hplain : ∀ c ∈ authority, endsAuthority kind c = false)
    (hrest : ∀ c ∈ rest.head?, endsAuthority kind c = true) :
    readAuthority scheme kind (authority ++ rest) =
      let (user, place) := cutUser authority
      let (hostText, portText) := cutPort false place
      if user = some [] ∧ place = [] ∧ rest ≠ [] then .error .emptyHost
      else (readHost kind hostText).bind fun host =>
        if host.isNone ∧ portText.isSome then .error .emptyHost
        else (readPort ((portText.getD []).takeWhile (· != '\\'))).bind fun port =>
          if host.isNone ∧ user.any (fun cs => cs ≠ [] ∧ cs ≠ [':']) then .error .emptyHost
          else .ok ⟨scheme, host, port, rest, user.getD []⟩ := by
  obtain ⟨htake, hdrop⟩ := takeWhile_authority hplain hrest
  simp only [readAuthority, htake, hdrop, List.isEmpty_iff, Bool.not_eq_true',
    List.isEmpty_eq_false_iff]
  rfl

/-- Reads a host and a port. -/
def readPlace (authority : List Char) : Except UrlFault (Host × Option Nat) := do
  let (hostText, portText) := cutPort false authority
  let host ← if hostText.isEmpty then throw .emptyHost else Host.ofChars hostText
  let port ← readPort ((portText.getD []).takeWhile (· != '\\'))
  return (host, port)

theorem readAuthority_nil (scheme : String) :
    readAuthority scheme .network [] = .error .emptyHost := rfl

/-- Without a user only the host and the port can be wrong, and what follows them is the
rest. -/
theorem readAuthority_append (scheme : String) {authority path : List Char}
    (hplain : ∀ c ∈ authority, c ≠ '@' ∧ endsAuthority .network c = false)
    (hpath : ∀ c ∈ path.head?, endsAuthority .network c = true) :
    readAuthority scheme .network (authority ++ path) =
      (readPlace authority).map fun place => ⟨scheme, some place.1, place.2, path, []⟩ := by
  have hnone : cutUser authority = (none, authority) := by
    have hmem : '@' ∉ authority := by
      intro hmem
      exact (hplain _ hmem).1 rfl
    simp [cutUser, hmem]
  rw [readAuthority_eq scheme (fun c hc => (hplain c hc).2) hpath, readPlace, hnone]
  dsimp only
  generalize cutPort false authority = cut
  obtain ⟨hostText, portText⟩ := cut
  by_cases hempty : hostText.isEmpty = true
  · simp [readHost, hempty, bind, Except.bind, throw, throwThe,
      MonadExceptOf.throw, Except.map]
  · simp only [readHost, if_neg hempty]
    cases hhost : Host.ofChars hostText with
    | error fault => simp [bind, Except.bind, Except.map]
    | ok host =>
      cases hport : readPort ((portText.getD []).takeWhile (· != '\\')) with
      | error fault => simp [bind, Except.bind, Except.map]
      | ok port => simp [bind, Except.bind, Except.map, pure, Except.pure]

end Url

/-! ## Origins -/

namespace Origin

variable (o : Origin)

/-- The text of an origin. -/
def text : String := String.ofList (o.scheme ++ ':' :: '/' :: '/' :: o.authority)

/-- The scheme in lower case. -/
def schemeName : String := String.ofList (o.scheme.map Char.toLower)

theorem scheme_ne_nil : o.scheme ≠ [] := by
  intro hnil
  have hweb := o.isWeb
  rw [hnil] at hweb
  exact absurd hweb (by decide)

theorem schemeKind_schemeName : Url.schemeKind o.schemeName = .network := by
  have hweb := o.isWeb
  rw [← schemeName, List.contains_iff_mem] at hweb
  simp only [List.mem_cons, List.not_mem_nil, or_false] at hweb
  rcases hweb with hweb | hweb
  · rw [hweb]
    rfl
  · rw [hweb]
    rfl

theorem lt_toNat_of_mem {c : Char} (hc : c ∈ o.text.toList) : 32 < c.toNat := by
  rw [text, String.toList_ofList, List.mem_append, List.mem_cons, List.mem_cons,
    List.mem_cons] at hc
  rcases hc with hc | rfl | rfl | rfl | hc
  · exact Url.lt_toNat_of_isAlpha (o.isAlpha_scheme c hc)
  · decide
  · decide
  · decide
  · exact (o.plain c hc).1

/-- What is read of an origin with visible text behind it. -/
theorem parse_eq_readAuthority {path : String} (hpath : ∀ c ∈ path.toList, 32 < c.toNat) :
    Url.parse (o.text ++ path) =
      Url.readAuthority o.schemeName .network ((o.authority ++
        path.toList).dropWhile Url.isSlash) := by
  have hvisible : ∀ c ∈ (o.text ++ path).toList, 32 < c.toNat := by
    intro c hc
    rw [String.toList_append, List.mem_append] at hc
    exact hc.elim o.lt_toNat_of_mem (hpath c)
  have htext : (o.text ++ path).toList = o.scheme ++ ':' :: '/' :: '/' ::
      (o.authority ++ path.toList) := by
    simp [text]
  rw [Url.parse, Url.clean_of_forall hvisible, htext,
    Url.scheme?_append o.scheme_ne_nil o.isAlpha_scheme]
  have hkind := o.schemeKind_schemeName
  rw [schemeName] at hkind
  simp only [hkind]
  rfl

theorem authority_ne_nil : o.authority ≠ [] := by
  intro hnil
  obtain ⟨u, hu⟩ := o.accepted
  have hread : Url.parse (o.text ++ "") = _ := o.parse_eq_readAuthority (by simp)
  rw [String.append_empty, text, hu, hnil] at hread
  exact absurd hread (by simp [Url.readAuthority_nil])

/-- The text of an origin does not end with a slash. -/
theorem dropWhile_reverse_authority (rest : List Char) :
    (o.authority.reverse ++ rest).dropWhile (· == '/') = o.authority.reverse ++ rest := by
  cases hrev : o.authority.reverse with
  | nil => exact absurd (List.reverse_eq_nil_iff.1 hrev) o.authority_ne_nil
  | cons c cs =>
    have hmem : c ∈ o.authority := List.mem_reverse.1 (hrev ▸ List.mem_cons_self)
    have hslash : (c == '/') = false := by
      have hend := (o.plain c hmem).2.2
      simp only [Url.endsAuthority, Bool.or_eq_false_iff] at hend
      exact hend.1.1.1
    simp [hslash]

/-- Slashes behind an origin do not count. -/
theorem trimSlashes_append (n : Nat) :
    Settings.trimSlashes (o.text ++ String.ofList (List.replicate n '/')) = o.text := by
  have hreverse : (o.text ++ String.ofList (List.replicate n '/')).toList.reverse =
      List.replicate n '/' ++
        (o.authority.reverse ++ (o.scheme ++ [':', '/', '/']).reverse) := by
    simp [text]
  rw [Settings.trimSlashes, hreverse,
    List.dropWhile_append_of_pos (fun c hc => by simp [List.eq_of_mem_replicate hc]),
    dropWhile_reverse_authority]
  simp [text]

/-- A path behind an origin is what follows its host. -/
theorem parse_append {path : String} (hpath : ∀ c ∈ path.toList, 32 < c.toNat)
    (hroot : ∀ c ∈ path.toList.head?, c = '/') :
    Url.parse (o.text ++ path) = (Url.readPlace o.authority).map fun place =>
      ⟨o.schemeName, some place.1, place.2, path.toList, []⟩ := by
  have hfront : (o.authority ++ path.toList).dropWhile Url.isSlash = o.authority ++
      path.toList := by
    apply Url.dropWhile_isSlash
    intro c hc
    cases hauthority : o.authority with
    | nil => exact absurd hauthority o.authority_ne_nil
    | cons first more =>
      rw [hauthority] at hc
      obtain rfl := Option.some.inj hc
      exact (o.plain first (hauthority ▸ List.mem_cons_self)).2.2
  rw [o.parse_eq_readAuthority hpath, hfront]
  apply Url.readAuthority_append
  · intro c hc
    exact (o.plain c hc).2
  · intro c hc
    rw [hroot c hc]
    rfl

/-- The host and the port of an origin are valid. -/
theorem exists_readPlace : ∃ place, Url.readPlace o.authority = .ok place := by
  obtain ⟨u, hu⟩ := o.accepted
  have hread : Url.parse (o.text ++ "") = _ := o.parse_append (by simp) (by simp)
  rw [String.append_empty, text, hu] at hread
  cases hplace : Url.readPlace o.authority with
  | ok place => exact ⟨place, rfl⟩
  | error fault =>
    rw [hplace] at hread
    exact absurd hread (by simp [Except.map])

/-- The URL of a plain path behind an origin asks for that path, without a query, and names no
user. -/
theorem exists_parse_append {path : String} (hpath : Url.IsPlainPath path) :
    ∃ u, Url.parse (o.text ++ path) = .ok u ∧ u.path = path.toList ∧ u.query? = none ∧
      u.user = [] := by
  obtain ⟨place, hplace⟩ := o.exists_readPlace
  have hparse : Url.parse (o.text ++ path) = _ := o.parse_append
    (fun c hc => Url.lt_toNat_of_plain (hpath.plain c hc).1)
    (fun c hc => by
      obtain ⟨rest, hrest⟩ := hpath.root
      rw [hrest] at hc
      exact (Option.some.inj hc).symm)
  rw [hplace] at hparse
  exact ⟨_, hparse, Url.path_of_isPlainPath hpath rfl,
    Url.query?_of_isPlainPath hpath rfl, rfl⟩

/-- The origin of a server on the same machine. -/
def loopback : Origin where
  scheme := "http".toList
  authority := "127.0.0.1:1".toList
  isAlpha_scheme := List.all_eq_true.1 (by decide)
  isWeb := by decide
  plain := by
    intro c hc
    have hall : "127.0.0.1:1".toList.all (fun c =>
        32 < c.toNat && c != '@' && !Url.endsAuthority .network c) = true := by decide
    simpa [and_assoc] using List.all_eq_true.1 hall c hc
  accepted := ⟨⟨"http", some (.ipv4 2130706433), some 1, [], []⟩, by decide +kernel⟩

end Origin

end BalancerClient
