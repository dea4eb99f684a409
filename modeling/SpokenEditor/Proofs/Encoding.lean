import Mathlib.Data.List.Basic
import SpokenEditor.Text.Utf8

/-! # The bytes of a text

An ASCII character is encoded as one byte, its code point, and no byte of another character is such a
byte.  So an ASCII character stands in a text exactly if its byte stands among the bytes, and bytes are
those of one text at most.

* `utf8EncodeChar_cases`: the bytes of a character;
* `mem_encode_iff`: the bytes that are ASCII characters;
* `encode_injective`: bytes determine their text. -/

namespace SpokenEditor.Text

variable {s t : Text} {c d : Char}

/-! ### One character -/

/-- An ASCII character is one byte.  Any other is a first byte and continuation bytes, all of them
above ASCII. -/
theorem utf8EncodeChar_cases (c : Char) :
    (c.toNat < 0x80 ∧ String.utf8EncodeChar c = [UInt8.ofNat c.toNat]) ∨
      (0x80 ≤ c.toNat ∧ ∃ b rest, String.utf8EncodeChar c = b :: rest ∧ 0xC0 ≤ b.toNat ∧
        ∀ b' ∈ rest, 0x80 ≤ b'.toNat ∧ b'.toNat < 0xC0) := by
  have hmax : c.toNat < 0x110000 := by
    have hvalid := c.valid
    rw [UInt32.isValidChar, Nat.isValidChar] at hvalid
    change c.val.toNat < 0x110000
    omega
  have hfirst : ∀ n, 0xC0 ≤ n → n < 0x100 → 0xC0 ≤ (UInt8.ofNat n).toNat := by
    intro n hn hlt
    rwa [UInt8.toNat_ofNat_of_lt' hlt]
  have hrest : ∀ n, 0x80 ≤ (UInt8.ofNat (n % 0x40 + 0x80)).toNat ∧
      (UInt8.ofNat (n % 0x40 + 0x80)).toNat < 0xC0 := by
    intro n
    have hlt : n % 0x40 + 0x80 < UInt8.size := Nat.lt_trans (by omega : _ < 0xC0) (by decide)
    rw [UInt8.toNat_ofNat_of_lt' hlt]
    omega
  have hn : c.val.toNat = c.toNat := rfl
  fun_cases String.utf8EncodeChar c with
  | case1 v h => exact .inl ⟨by omega, rfl⟩
  | case2 v h h' =>
      refine .inr ⟨by omega, _, _, rfl, hfirst _ (by omega) (by omega), ?_⟩
      exact List.forall_mem_singleton.2 (hrest _)
  | case3 v h h' h'' =>
      refine .inr ⟨by omega, _, _, rfl, hfirst _ (by omega) (by omega), ?_⟩
      exact List.forall_mem_cons.2 ⟨hrest _, List.forall_mem_singleton.2 (hrest _)⟩
  | case4 v h h' h'' =>
      refine .inr ⟨by omega, _, _, rfl, hfirst _ (by omega) (by omega), ?_⟩
      exact List.forall_mem_cons.2 ⟨hrest _, List.forall_mem_cons.2
        ⟨hrest _, List.forall_mem_singleton.2 (hrest _)⟩⟩

theorem toNat_ofNat_of_ascii (hd : d.toNat < 0x80) : (UInt8.ofNat d.toNat).toNat = d.toNat :=
  UInt8.toNat_ofNat_of_lt' (Nat.lt_trans hd (by decide))

/-- A byte that is an ASCII character is that character. -/
theorem mem_utf8EncodeChar_iff (hd : d.toNat < 0x80) :
    UInt8.ofNat d.toNat ∈ String.utf8EncodeChar c ↔ c = d := by
  have hbyte := toNat_ofNat_of_ascii hd
  obtain ⟨hc, h⟩ | ⟨hc, b, rest, h, hb, hrest⟩ := utf8EncodeChar_cases c
  · rw [h, List.mem_singleton, ← UInt8.toNat_inj, hbyte, toNat_ofNat_of_ascii hc, Char.toNat_inj]
    exact eq_comm
  · refine iff_of_false (fun hmem => ?_) fun hcd => by rw [hcd] at hc; omega
    rw [h] at hmem
    obtain hfirst | hmem := List.mem_cons.1 hmem
    · rw [← hfirst, hbyte] at hb
      omega
    · have hlow := (hrest _ hmem).1
      rw [hbyte] at hlow
      omega

/-! ### Texts -/

theorem encode_cons (c : Char) (t : Text) : encode (c :: t) = String.utf8EncodeChar c ++ encode t :=
  List.flatMap_cons

theorem encode_injective (h : encode s = encode t) : s = t := by
  have hdecode := decode_encode s
  rw [h, decode_encode] at hdecode
  exact (Option.some.inj hdecode).symm

theorem encode_ne_nil (h : t ≠ []) : encode t ≠ [] := by
  cases t with
  | nil => exact absurd rfl h
  | cons c t =>
      rw [encode_cons]
      exact List.append_ne_nil_of_left_ne_nil String.utf8EncodeChar_ne_nil _

theorem eq_nil_of_length_encode (h : (encode t).length = 0) : t = [] := by
  by_contra hne
  exact encode_ne_nil hne (List.eq_nil_of_length_eq_zero h)

/-- **An ASCII character stands in a text exactly if its byte stands among the bytes.** -/
theorem mem_encode_iff (hd : d.toNat < 0x80) : UInt8.ofNat d.toNat ∈ encode t ↔ d ∈ t := by
  rw [encode, List.mem_flatMap]
  constructor
  · rintro ⟨c, hc, hbyte⟩
    rwa [← (mem_utf8EncodeChar_iff hd).1 hbyte]
  · exact fun h => ⟨d, h, (mem_utf8EncodeChar_iff hd).2 rfl⟩

end SpokenEditor.Text
