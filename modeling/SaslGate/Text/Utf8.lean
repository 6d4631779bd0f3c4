/-
Text and its UTF-8 bytes. Decoding refuses everything that is not the
encoding of some text (overlong forms, surrogates, cut sequences), so the
two functions are inverse to each other where decoding succeeds.
-/
import SaslGate.Bytes

namespace SaslGate.Utf8

/-- The UTF-8 bytes of a text. -/
def encode (s : String) : Bytes := s.toByteArray.data.toList

/-- The text that a byte string encodes, if it encodes one. -/
def decode? (bytes : Bytes) : Option String :=
  String.fromUTF8? ⟨bytes.toArray⟩

/-- A text is read back from its bytes. -/
theorem decode?_encode (s : String) : decode? (encode s) = some s := by
  have h : (⟨(encode s).toArray⟩ : ByteArray) = s.toByteArray := by
    simp [encode]
  rw [decode?, h, String.fromUTF8?,
    dif_pos s.isValidUTF8]
  simp [String.fromUTF8]

/-- A text has no other bytes than its own. -/
theorem eq_encode_of_decode? {bytes : Bytes} {s : String}
    (h : decode? bytes = some s) : bytes = encode s := by
  unfold decode? String.fromUTF8? at h
  split at h
  · injection h with h
    subst h
    simp [encode, String.fromUTF8]
  · exact absurd h (by simp)

/-- Exactly the encodings of texts decode, each to its own text. -/
theorem decode?_eq_some_iff {bytes : Bytes} {s : String} :
    decode? bytes = some s ↔ bytes = encode s :=
  ⟨eq_encode_of_decode?, fun h => h ▸ decode?_encode s⟩

end SaslGate.Utf8
