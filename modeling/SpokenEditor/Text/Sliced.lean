/-!
# Texts by bytes

A text once more, as the bytes that it is encoded as.  Offsets and lengths count bytes here, and a part
of a text is a slice between two offsets.  A slice exists if its bounds are in order and each of them is
the end of the text or a place where a character begins.  Where a slice is asked for, the answer may be
that there is none; where it is taken, the whole function is refused if there is none.  So a search has
two answers, one in the other: the outer `none` is a refusal, the inner one means that nothing was found.

* `length_of_slice?`: how long a slice is;
* `length_lt_of_round?`: so every round of a replacement leaves less to be searched, and it ends.
-/

namespace SpokenEditor

/-- A text, byte by byte. -/
abbrev Bytes := List UInt8

namespace Bytes

/-- The byte is the first one of a character. -/
def beginsChar (b : UInt8) : Bool :=
  b.toNat < 0x80 || 0xC0 ≤ b.toNat

/-- A character begins at the offset, or the text ends there. -/
def isBoundary (bytes : Bytes) (i : Nat) : Bool :=
  i == 0 ||
    match bytes[i]? with
    | some b => beginsChar b
    | none => i == bytes.length

/-- The bytes from the offset `i` up to `j`, if they are a slice of the text. -/
def slice? (bytes : Bytes) (i j : Nat) : Option Bytes :=
  if i ≤ j ∧ bytes.isBoundary i ∧ bytes.isBoundary j then some ((bytes.take j).drop i) else none

theorem le_length_of_isBoundary {bytes : Bytes} {i : Nat} (h : bytes.isBoundary i = true) :
    i ≤ bytes.length := by
  rw [isBoundary, Bool.or_eq_true, beq_iff_eq] at h
  obtain rfl | h := h
  · exact Nat.zero_le _
  · split at h
    · next b hb => exact Nat.le_of_lt (List.getElem?_eq_some_iff.1 hb).1
    · exact Nat.le_of_eq (beq_iff_eq.1 h)

theorem length_of_slice? {bytes part : Bytes} {i j : Nat} (h : bytes.slice? i j = some part) :
    part.length = j - i ∧ j ≤ bytes.length := by
  rw [slice?] at h
  split at h
  · next hbounds =>
    have hj := le_length_of_isBoundary hbounds.2.2
    obtain rfl := Option.some.inj h
    exact ⟨by rw [List.length_drop, List.length_take, Nat.min_eq_left hj], hj⟩
  · cases h

/-- The byte with a capital ASCII letter in lowercase. -/
def lowerByte (b : UInt8) : UInt8 :=
  if 65 ≤ b.toNat ∧ b.toNat ≤ 90 then b + 32 else b

/-- Equality up to the case of ASCII letters. -/
def sameLetters (s t : Bytes) : Bool :=
  s.map lowerByte == t.map lowerByte

/-! ### Patterns at the ends -/

/-- The bytes after the pattern `p`, if the text begins with it up to case. -/
def dropStart? (p bytes : Bytes) : Option (Option Bytes) :=
  match bytes.slice? 0 p.length with
  | none => some none
  | some head =>
    if head.sameLetters p then (bytes.slice? p.length bytes.length).map some else some none

/-- The bytes before the pattern `p`, if the text ends with it up to case. -/
def dropEnd? (p bytes : Bytes) : Option (Option Bytes) :=
  if bytes.length < p.length then some none
  else
    let start := bytes.length - p.length
    match bytes.slice? start bytes.length with
    | none => some none
    | some tail => if tail.sameLetters p then (bytes.slice? 0 start).map some else some none

/-! ### Patterns anywhere -/

/-- The offsets at which a character begins, in order. -/
def charOffsets (bytes : Bytes) : List Nat :=
  (List.range bytes.length).filter bytes.isBoundary

/-- The first offset at which the pattern `p` stands up to case. -/
def find? (p bytes : Bytes) : Option Nat :=
  bytes.charOffsets.find? fun i => (bytes.slice? i (i + p.length)).any fun part => part.sameLetters p

/-- What stands before the first place of the pattern `p`, and what stands after it. -/
def round? (p bytes : Bytes) : Option (Option (Bytes × Bytes)) :=
  match find? p bytes with
  | none => some none
  | some i => do
    let chunk ← bytes.slice? 0 i
    let rest ← bytes.slice? (i + p.length) bytes.length
    return some (chunk, rest)

/-- A round leaves less to be searched. -/
theorem length_lt_of_round? {p bytes chunk rest : Bytes} (hp : p ≠ [])
    (h : round? p bytes = some (some (chunk, rest))) : rest.length < bytes.length := by
  have hpos := List.length_pos_iff.2 hp
  rw [round?] at h
  split at h
  · cases h
  · next i hi =>
    have hmem := List.mem_of_find?_eq_some hi
    have hlt : i < bytes.length := List.mem_range.1 (List.mem_filter.1 hmem).1
    obtain ⟨first, -, h⟩ := Option.bind_eq_some_iff.1 h
    obtain ⟨second, hsecond, h⟩ := Option.bind_eq_some_iff.1 h
    obtain ⟨rfl, rfl⟩ := Prod.mk.inj (Option.some.inj (Option.some.inj h))
    have hlength := (length_of_slice? hsecond).1
    omega

/-- Every place of the pattern `p` replaced by `new`, found from the left, with what is done
already before it. -/
def replaceAll? (p : Bytes) (hp : p ≠ []) (new done bytes : Bytes) : Option Bytes :=
  match _ : round? p bytes with
  | none => none
  | some none => some (done ++ bytes)
  | some (some (chunk, rest)) => replaceAll? p hp new (done ++ chunk ++ new) rest
termination_by bytes.length
decreasing_by exact length_lt_of_round? hp (by assumption)

end Bytes

end SpokenEditor
