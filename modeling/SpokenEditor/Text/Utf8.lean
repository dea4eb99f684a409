import SpokenEditor.Text.Basic

/-!
# UTF-8

Texts as bytes. Decoding is strict: bytes that no text is encoded as are refused.

* `decode_eq_some_iff`: bytes decode to a text exactly when it is encoded as them.
-/

namespace SpokenEditor.Text

/-- The bytes of the text. -/
def encode (t : Text) : List UInt8 :=
  t.flatMap String.utf8EncodeChar

theorem encode_append (s t : Text) : encode (s ++ t) = encode s ++ encode t :=
  List.flatMap_append

/-- The text whose bytes these are, if there is one. -/
def decode (bytes : List UInt8) : Option Text :=
  (String.fromUTF8? bytes.toByteArray).map String.toList

/-- Bytes decode to a text exactly when it is encoded as them. -/
theorem decode_eq_some_iff {bytes : List UInt8} {t : Text} :
    decode bytes = some t ↔ bytes = encode t := by
  have key : ∀ h : bytes.toByteArray.IsValidUTF8,
      (String.fromUTF8 bytes.toByteArray h).toList = t ↔ bytes = encode t := by
    intro h
    rw [← String.ofList_inj, String.ofList_toList, ← String.toByteArray_inj,
      String.toByteArray_ofList]
    exact List.toByteArray_inj
  unfold decode String.fromUTF8?
  split
  · next h => simp [key h]
  · next h =>
    simp only [Option.map_none, reduceCtorEq, false_iff]
    rintro rfl
    exact h ⟨t, rfl⟩

theorem decode_encode (t : Text) : decode (encode t) = some t :=
  decode_eq_some_iff.2 rfl

end SpokenEditor.Text
