/-!
# Text as UTF-8 octets

Payloads, names and keys travel as octets.  `Utf8.encode` and `Utf8.decode?` are the two
directions between text and its UTF-8 octets; decoding refuses every sequence that encodes no
text.

## Main definitions

* `Bytes` - a sequence of octets.
* `Utf8.encode`, `Utf8.decode?` - text to octets and back.
-/

namespace BalancerClient

/-- A sequence of octets. -/
abbrev Bytes := List UInt8

namespace Utf8

/-- The UTF-8 octets of a text. -/
def encode (s : String) : Bytes := s.toByteArray.data.toList

/-- The text whose UTF-8 octets are `bytes`, if there is one. -/
def decode? (bytes : Bytes) : Option String := String.fromUTF8? ⟨bytes.toArray⟩

/-- Encoding loses nothing. -/
@[simp] theorem decode?_encode (s : String) : decode? (encode s) = some s := by
  have h : (⟨(encode s).toArray⟩ : ByteArray) = s.toByteArray := by simp [encode]
  simp only [decode?, h, String.fromUTF8?, dif_pos s.isValidUTF8]
  rfl

/-- Two texts with the same octets are equal. -/
theorem encode_injective {s t : String} (h : encode s = encode t) : s = t := by
  have := decode?_encode s
  rw [h, decode?_encode] at this
  exact (Option.some.inj this).symm

/-- The octets of a text are those of its characters. -/
theorem encode_ofList (cs : List Char) :
    encode (String.ofList cs) = cs.flatMap String.utf8EncodeChar := by
  simp [encode, List.utf8Encode]

/-- A character of one octet. -/
theorem utf8EncodeChar_of_lt {c : Char} (h : c.toNat < 128) :
    String.utf8EncodeChar c = [UInt8.ofNat c.toNat] := by
  have hv : c.val.toNat ≤ 127 := Nat.le_of_lt_succ h
  simp only [String.utf8EncodeChar, hv, if_true]
  rfl

@[simp] theorem encode_append (s t : String) : encode (s ++ t) = encode s ++ encode t := by
  simp [encode, String.toByteArray_append]

end Utf8

end BalancerClient
