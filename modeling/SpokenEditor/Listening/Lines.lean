import SpokenEditor.Text.Utf8

/-!
# Lines of a byte stream

A line ends with a line feed, or with a carriage return and a line feed; the last line may lack its
end. A stream is read as text line by line, up to the first line that is no text.

* `byteLines_append_lineEnd`: a line with its end is read back, and reading goes on behind it.
-/

namespace SpokenEditor.Text

/-- The lines of a byte stream, without their ends. -/
def byteLines : List UInt8 → List (List UInt8)
  | [] => []
  | 13 :: 10 :: rest => [] :: byteLines rest
  | 10 :: rest => [] :: byteLines rest
  | b :: rest =>
    match byteLines rest with
    | [] => [[b]]
    | l :: ls => (b :: l) :: ls

/-- The lines before the first one that is no text. -/
def decodedLines : List (List UInt8) → List Text
  | [] => []
  | l :: ls =>
    match decode l with
    | some t => t :: decodedLines ls
    | none => []

/-- The texts that a byte stream spells, one a line. -/
def textLines (bytes : List UInt8) : List Text :=
  decodedLines (byteLines bytes)

/-- Bytes other than a line feed that stand before a line belong to it. -/
theorem byteLines_cons {b : UInt8} {rest l : List UInt8} {ls : List (List UInt8)} (hb : b ≠ 10)
    (hr : b = 13 → ∀ r, rest ≠ 10 :: r) (h : byteLines rest = l :: ls) :
    byteLines (b :: rest) = (b :: l) :: ls := by
  rw [byteLines.eq_def]
  split
  · next e => exact absurd e nofun
  · next r e => exact absurd (List.cons.inj e).2 (hr (List.cons.inj e).1 r)
  · next e => exact absurd (List.cons.inj e).1 hb
  · next e =>
    obtain ⟨rfl, rfl⟩ := List.cons.inj e
    rw [h]

/-- A line with its end, a carriage return and a line feed, is read back, and reading goes on
behind it. -/
theorem byteLines_append_lineEnd (rest : List UInt8) : ∀ {l : List UInt8}, 10 ∉ l →
    byteLines (l ++ 13 :: 10 :: rest) = l :: byteLines rest
  | [], _ => rfl
  | b :: l, h => by
    rw [List.mem_cons, not_or] at h
    refine byteLines_cons (Ne.symm h.1) (fun _ r e => ?_) (byteLines_append_lineEnd rest h.2)
    cases l with
    | nil => exact absurd (List.cons.inj e).1 (by decide)
    | cons c l => exact h.2 ((List.cons.inj e).1 ▸ List.mem_cons_self)

end SpokenEditor.Text
