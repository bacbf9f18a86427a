import BalancerClient.Http.Percent
import BalancerClient.Text.Lenient
import BalancerClient.Text.Pieces

/-!
# Form-encoded parameters

Names and texts are joined by an equals sign, and pairs by an ampersand.  Letters, digits and
`*-._` stand for themselves, a blank is a plus sign, and every other octet is percent-encoded.
A client writes forms; a server reads them leniently.

## Main definitions

* `Form.encode`, `Form.decode?` - a list of pairs as text and back.
* `Form.decode` - the pairs of any text.
* `Form.ofOctets` - the text of a form whose octets are given.

## Main statements

* `Form.decode?_encode` - a list of pairs is read back.
* `Form.decode_of_decode?` - the lenient reader takes what the strict one takes, in the same
  way.
* `Form.decode_ofOctets_encode` - a server finds the pairs that a client has written.
-/

namespace BalancerClient.Form

/-- Whether an octet stands for itself. -/
def isPlain (b : UInt8) : Bool :=
  (0x30 ≤ b && b ≤ 0x39) || (0x41 ≤ b && b ≤ 0x5a) || (0x61 ≤ b && b ≤ 0x7a) ||
    b == 0x2a || b == 0x2d || b == 0x2e || b == 0x5f

/-- An octet in a form. -/
def octet (b : UInt8) : List Char :=
  if b = 0x20 then ['+'] else if isPlain b then [Char.ofNat b.toNat] else percentOctet b

/-- A text in a form. -/
def text (s : String) : List Char := (Utf8.encode s).flatMap octet

/-- A name and its text. -/
def pair (e : String × String) : List Char := text e.1 ++ '=' :: text e.2

/-- The form of a list of pairs. -/
def encode (pairs : List (String × String)) : String :=
  String.ofList (Text.glue '&' (pairs.map pair))

/-- The character that a character of a form stands for, percent-encoding apart. -/
def unplus (c : Char) : Char := if c = '+' then ' ' else c

/-- Reads a text, unless its octets are none. -/
def readText? (cs : List Char) : Option String := Utf8.decode? (percentDecode (cs.map unplus))

/-- Reads a name and its text, which is empty if there is no equals sign. -/
def readPair? (cs : List Char) : Option (String × String) := do
  let name ← readText? (cs.takeWhile (· != '='))
  let value ← readText? ((cs.dropWhile (· != '=')).drop 1)
  return (name, value)

/-- The pairs of a form; empty pieces are passed over. -/
def decode? (s : String) : Option (List (String × String)) :=
  ((Text.pieces (· == '&') s.toList).filter (!·.isEmpty)).mapM readPair?

/-- Reads a text, whatever its octets are. -/
def readText (cs : List Char) : String := Utf8.decodeLenient (percentDecode (cs.map unplus))

/-- Reads a name and its text, whatever their octets are. -/
def readPair (cs : List Char) : String × String :=
  (readText (cs.takeWhile (· != '=')), readText ((cs.dropWhile (· != '=')).drop 1))

/-- The pairs of a form, whatever their octets are. -/
def decode (cs : List Char) : List (String × String) :=
  ((Text.pieces (· == '&') cs).filter (!·.isEmpty)).map readPair

/-- The text of a form whose octets are given: one beyond ASCII counts as if it were
percent-encoded. -/
def ofOctets (bytes : Bytes) : List Char :=
  bytes.flatMap fun b => if b < 0x80 then [Char.ofNat b.toNat] else percentOctet b

/-! ## Reading what is written -/

/-- What holds of the octets below 256 holds of all. -/
theorem forall_octet {p : UInt8 → Bool}
    (h : (List.range 256).all (fun n => p (UInt8.ofNat n)) = true)
    (b : UInt8) : p b = true := by
  have := List.all_eq_true.1 h b.toNat (List.mem_range.2 b.toNat_lt)
  rwa [UInt8.ofNat_toNat] at this

/-- No octet is written with a character that separates. -/
theorem not_separator_of_mem_octet (b : UInt8) :
    ∀ c ∈ octet b, (c == '&') = false ∧ (c == '=') = false := by
  have h : ((octet b).all fun c => !(c == '&') && !(c == '=')) = true :=
    forall_octet (p := fun b => (octet b).all fun c => !(c == '&') &&
      !(c == '=')) (by decide +kernel) b
  simpa using h

theorem not_separator_of_mem_text {s : String} {c : Char} (h : c ∈ text s) :
    (c == '&') = false ∧ (c == '=') = false := by
  obtain ⟨b, -, hc⟩ := List.mem_flatMap.1 h
  exact not_separator_of_mem_octet b c hc

/-- An octet that is neither blank nor plain is written without a plus sign. -/
theorem map_unplus_percentOctet (b : UInt8) :
    (percentOctet b).map unplus = percentOctet b := by
  have h : ((percentOctet b).map unplus == percentOctet b) = true :=
    forall_octet (p := fun b => (percentOctet b).map unplus == percentOctet b)
      (by decide +kernel) b
  exact eq_of_beq h

/-- An octet that stands for itself is read as itself. -/
theorem plain_char (b : UInt8) (hb : isPlain b = true) :
    unplus (Char.ofNat b.toNat) = Char.ofNat b.toNat ∧ Char.ofNat b.toNat ≠ '%' ∧
      String.utf8EncodeChar (Char.ofNat b.toNat) = [b] := by
  have h : (!isPlain b || (unplus (Char.ofNat b.toNat) == Char.ofNat b.toNat &&
      !(Char.ofNat b.toNat == '%') && String.utf8EncodeChar (Char.ofNat b.toNat) == [b])) =
        true :=
    forall_octet
      (p := fun b => !isPlain b || (unplus (Char.ofNat b.toNat) == Char.ofNat b.toNat &&
        !(Char.ofNat b.toNat == '%') && String.utf8EncodeChar (Char.ofNat b.toNat) == [b]))
      (by decide +kernel) b
  simpa [hb, and_assoc] using h

theorem percentDecode_octet (b : UInt8) (rest : List Char) :
    percentDecode ((octet b).map unplus ++ rest) = b :: percentDecode rest := by
  unfold octet
  split
  · next h =>
    subst h
    show percentDecode (' ' :: rest) = _
    rw [percentDecode_cons (by decide)]
    rfl
  · split
    · next h =>
      obtain ⟨hu, hp, he⟩ := plain_char b h
      show percentDecode (unplus (Char.ofNat b.toNat) :: rest) = _
      rw [hu, percentDecode_cons hp, he]
      rfl
    · rw [map_unplus_percentOctet, percentDecode_percentOctet]

theorem percentDecode_octets :
    ∀ bytes : Bytes, percentDecode ((bytes.flatMap octet).map unplus) = bytes
  | [] => rfl
  | b :: bytes => by
    rw [List.flatMap_cons, List.map_append, percentDecode_octet, percentDecode_octets bytes]

/-- A text is read back. -/
theorem readText?_text (s : String) : readText? (text s) = some s := by
  rw [readText?, text, percentDecode_octets, Utf8.decode?_encode]

/-- A pair is read back. -/
theorem readPair?_pair (e : String × String) : readPair? (pair e) = some e := by
  have hname : ∀ c ∈ text e.1, (c != '=') = true := fun c hc => by
    simp [bne, (not_separator_of_mem_text hc).2]
  have htake : (pair e).takeWhile (· != '=') = text e.1 := by
    rw [pair, List.takeWhile_append_of_pos hname]
    simp
  have hdrop : (pair e).dropWhile (· != '=') = '=' :: text e.2 := by
    rw [pair, List.dropWhile_append_of_pos hname]
    simp
  simp [readPair?, htake, hdrop, readText?_text]

/-- A list of pairs is read back. -/
theorem decode?_encode (pairs : List (String × String)) :
    decode? (encode pairs) = some pairs := by
  have hread : ∀ ps : List (String × String), (ps.map pair).mapM readPair? = some ps :=
    fun ps => by
    induction ps with
    | nil => rfl
    | cons e ps ih => simp [readPair?_pair, ih]
  cases hp : pairs with
  | nil => rfl
  | cons e rest =>
    rw [← hp]
    have hsep : ∀ p ∈ pairs.map pair, ∀ c ∈ p, (c == '&') = false := by
      intro p hmem c hc
      obtain ⟨e, -, rfl⟩ := List.mem_map.1 hmem
      rcases List.mem_append.1 hc with h | h
      · exact (not_separator_of_mem_text h).1
      · rcases List.mem_cons.1 h with rfl | h
        · rfl
        · exact (not_separator_of_mem_text h).1
    have hfilter : (pairs.map pair).filter (!·.isEmpty) = pairs.map pair := by
      refine List.filter_eq_self.2 fun p hmem => ?_
      obtain ⟨e, -, rfl⟩ := List.mem_map.1 hmem
      simp [pair]
    have hne : pairs.map pair ≠ [] := by simp [hp]
    have hcut : Text.pieces (· == '&') (Text.glue '&' (pairs.map pair)) = pairs.map pair :=
      Text.pieces_glue (by rfl) hne hsep
    rw [decode?, encode, String.toList_ofList, hcut, hfilter, hread]

/-! ## Lenient reading -/

theorem readPair_of_readPair? {cs : List Char} {e : String × String}
    (h : readPair? cs = some e) : readPair cs = e := by
  simp only [readPair?, Option.bind_eq_bind, Option.bind_eq_some_iff, readText?] at h
  obtain ⟨name, hname, value, hvalue, he⟩ := h
  rw [readPair, readText, readText, Utf8.decodeLenient_of_decode? hname,
    Utf8.decodeLenient_of_decode? hvalue]
  exact Option.some.inj he

/-- The lenient reader takes what the strict one takes, in the same way. -/
theorem decode_of_decode? {s : String} {pairs : List (String × String)}
    (h : decode? s = some pairs) : decode s.toList = pairs := by
  have hread : ∀ {ps : List (List Char)} {pairs : List (String × String)}, ps.mapM readPair? =
      some pairs → ps.map readPair = pairs := by
    intro ps
    induction ps with
    | nil =>
      intro pairs h
      exact Option.some.inj h
    | cons p ps ih =>
      intro pairs h
      simp only [List.mapM_cons, Option.bind_eq_bind, Option.bind_eq_some_iff] at h
      obtain ⟨e, he, more, hmore, hpairs⟩ := h
      rw [List.map_cons, readPair_of_readPair? he, ih hmore]
      exact Option.some.inj hpairs
  exact hread h

theorem lt_of_mem_octet (b : UInt8) : ∀ c ∈ octet b, c.toNat < 128 := by
  have h : ((octet b).all fun c => decide (c.toNat < 128)) = true :=
    forall_octet (p := fun b => (octet b).all fun c => decide (c.toNat < 128))
      (by decide +kernel) b
  simpa using h

/-- The characters of a form are ASCII. -/
theorem lt_of_mem_encode {pairs : List (String × String)} {c : Char}
    (h : c ∈ (encode pairs).toList) : c.toNat < 128 := by
  have htext : ∀ {s : String}, c ∈ text s → c.toNat < 128 := by
    intro s hc
    obtain ⟨b, -, hc⟩ := List.mem_flatMap.1 hc
    exact lt_of_mem_octet b c hc
  rw [encode, String.toList_ofList] at h
  rcases Text.mem_glue h with rfl | ⟨p, hp, hc⟩
  · decide
  · obtain ⟨e, -, rfl⟩ := List.mem_map.1 hp
    rcases List.mem_append.1 hc with hc | hc
    · exact htext hc
    · rcases List.mem_cons.1 hc with rfl | hc
      · decide
      · exact htext hc

/-- The octets of a form stand for its text. -/
theorem ofOctets_encode (pairs : List (String × String)) :
    ofOctets (Utf8.encode (encode pairs)) = (encode pairs).toList := by
  have hascii : ∀ {cs : List Char}, (∀ c ∈ cs, c.toNat < 128) →
      ofOctets (cs.flatMap String.utf8EncodeChar) = cs := by
    intro cs
    induction cs with
    | nil => exact fun _ => rfl
    | cons c cs ih =>
      intro h
      have hc := h c List.mem_cons_self
      have hbyte : (UInt8.ofNat c.toNat).toNat = c.toNat := by
        simp only [UInt8.toNat_ofNat']
        omega
      have hlt : UInt8.ofNat c.toNat < 0x80 :=
        UInt8.lt_iff_toNat_lt.2 (by rw [hbyte]; exact hc)
      have hchar : Char.ofNat (UInt8.ofNat c.toNat).toNat = c :=
        by rw [hbyte, Char.ofNat_toNat]
      have hrest := ih fun d hd => h d (List.mem_cons_of_mem c hd)
      rw [ofOctets] at hrest
      rw [ofOctets, List.flatMap_cons, Utf8.utf8EncodeChar_of_lt hc,
        List.flatMap_append, hrest, List.flatMap_singleton, if_pos hlt, hchar]
      rfl
  have htext := hascii fun c hc => @lt_of_mem_encode pairs c hc
  rwa [← Utf8.encode_ofList, String.ofList_toList] at htext

/-- A server finds the pairs that a client has written. -/
theorem decode_ofOctets_encode (pairs : List (String × String)) :
    decode (ofOctets (Utf8.encode (encode pairs))) = pairs := by
  rw [ofOctets_encode, decode_of_decode? (decode?_encode pairs)]

end BalancerClient.Form
