import SpokenEditor.Listening.Lines
import SpokenEditor.Proofs.Encoding
import SpokenEditor.Proofs.Letters

/-! # Line ends

A byte stream is made of lines in one way, whatever bytes it has.  Texts that are written one a line,
with either line end after each, are read back but for a carriage return at the end of a text, and but
for a last text that is empty and lacks its line end.  What is said stays the same: these are blanks.

* `Lined`, `lined_iff`: the lines of a byte stream;
* `exists_eq_map_encode_append`: which of them are read;
* `Written`, `spoken_textLines`: texts one a line, and what is read back of them. -/

namespace SpokenEditor.Text

variable {t text : Text} {l rest : List UInt8}

/-! ### Lines of bytes -/

/-- A line without the carriage return that stands before its line feed, if there is one. -/
def withoutReturn (l : List UInt8) : List UInt8 :=
  if l.getLast? = some 13 then l.dropLast else l

/-- `Lined bytes lines`: the byte stream is made of these lines.  Each ends with a line feed, and a
carriage return before it does not belong to the line.  Bytes behind the last line feed are one more
line, with all of them. -/
inductive Lined : List UInt8 → List (List UInt8) → Prop
  | nil : Lined [] []
  | last {l : List UInt8} (hne : l ≠ []) (hl : 10 ∉ l) : Lined l [l]
  | line {l rest : List UInt8} {lines : List (List UInt8)} (hl : 10 ∉ l)
      (hrest : Lined rest lines) : Lined (l ++ 10 :: rest) (withoutReturn l :: lines)

/-- A line that does not end with a carriage return is read back from before a line feed. -/
theorem byteLines_append_cons (rest : List UInt8) : ∀ {l : List UInt8}, 10 ∉ l →
    l.getLast? ≠ some 13 → byteLines (l ++ 10 :: rest) = l :: byteLines rest
  | [], _, _ => rfl
  | b :: l, h, hlast => by
      rw [List.mem_cons, not_or] at h
      rw [List.getLast?_cons] at hlast
      have ih : byteLines (l ++ 10 :: rest) = l :: byteLines rest := by
        refine byteLines_append_cons rest h.2 fun hl => hlast ?_
        rw [hl, Option.getD_some]
      refine byteLines_cons (Ne.symm h.1) (fun hb r e => ?_) ih
      cases l with
      | nil => exact hlast (congrArg some hb)
      | cons c l => exact h.2 ((List.cons.inj e).1 ▸ List.mem_cons_self)

/-- **A line is read back from before a line feed**, without a carriage return at its end, and
reading goes on behind it. -/
theorem byteLines_append_lineFeed (hl : 10 ∉ l) (rest : List UInt8) :
    byteLines (l ++ 10 :: rest) = withoutReturn l :: byteLines rest := by
  rw [withoutReturn]
  split
  · next hlast =>
    obtain ⟨m, rfl⟩ := List.getLast?_eq_some_iff.1 hlast
    have hm : 10 ∉ m := fun h => hl (List.mem_append_left _ h)
    rw [List.append_assoc, List.singleton_append, byteLines_append_lineEnd rest hm,
      List.dropLast_concat]
  · next hlast => exact byteLines_append_cons rest hl hlast

/-- Bytes without a line feed are one line. -/
theorem byteLines_of_not_mem : ∀ {l : List UInt8}, l ≠ [] → 10 ∉ l → byteLines l = [l]
  | [], hne, _ => absurd rfl hne
  | [b], _, h => by
      rw [List.mem_singleton] at h
      rw [byteLines.eq_def]
      split
      · next e => cases e
      · next e => cases (List.cons.inj e).2
      · next e => exact absurd (List.cons.inj e).1.symm h
      · next e =>
        obtain ⟨rfl, rfl⟩ := List.cons.inj e
        rfl
  | b :: c :: l, _, h => by
      rw [List.mem_cons, not_or] at h
      have ih : byteLines (c :: l) = [c :: l] := byteLines_of_not_mem (List.cons_ne_nil c l) h.2
      refine byteLines_cons (Ne.symm h.1) (fun _ r e => ?_) ih
      exact h.2 ((List.cons.inj e).1 ▸ List.mem_cons_self)

/-- **The lines that a byte stream is made of are those that are read**, by induction on its line
feeds. -/
theorem lined_byteLines (bytes : List UInt8) : Lined bytes (byteLines bytes) := by
  by_cases hfeed : 10 ∈ bytes
  · obtain ⟨l, rest, hbytes, hl⟩ := List.eq_append_cons_of_mem hfeed
    have hshorter : rest.length < bytes.length := by
      rw [hbytes, List.length_append, List.length_cons]
      omega
    have ih := lined_byteLines rest
    rw [hbytes, byteLines_append_lineFeed hl]
    exact .line hl ih
  · by_cases hne : bytes = []
    · rw [hne]
      exact .nil
    · rw [byteLines_of_not_mem hne hfeed]
      exact .last hne hfeed
termination_by bytes.length

/-- And it is made of no others. -/
theorem lined_iff {bytes : List UInt8} {lines : List (List UInt8)} :
    Lined bytes lines ↔ lines = byteLines bytes := by
  constructor
  · intro h
    induction h with
    | nil => rfl
    | last hne hl => rw [byteLines_of_not_mem hne hl]
    | line hl _ ih => rw [byteLines_append_lineFeed hl, ih]
  · rintro rfl
    exact lined_byteLines bytes

/-- **What is read are the lines before the first one that is no text.** -/
theorem exists_eq_map_encode_append : ∀ lines : List (List UInt8), ∃ rest,
    lines = (decodedLines lines).map encode ++ rest ∧ ∀ line ∈ rest.head?, decode line = none
  | [] => ⟨[], rfl, nofun⟩
  | line :: lines => by
      rw [decodedLines]
      split
      · next t ht =>
        obtain ⟨rest, hlines, hrest⟩ := exists_eq_map_encode_append lines
        refine ⟨rest, ?_, hrest⟩
        rw [List.map_cons, List.cons_append, ← hlines, decode_eq_some_iff.1 ht]
      · next hnone =>
        refine ⟨line :: lines, rfl, fun l hl => ?_⟩
        obtain rfl := Option.some.inj hl
        exact hnone

/-! ### Texts one a line -/

/-- A text without a carriage return at its end, if there is one. -/
def dropReturn (t : Text) : Text :=
  if t.getLast? = some '\r' then t.dropLast else t

/-- The carriage returns of a text are the bytes that are carriage returns. -/
theorem withoutReturn_encode (t : Text) : withoutReturn (encode t) = encode (dropReturn t) := by
  obtain rfl | ⟨s, c, rfl⟩ := t.eq_nil_or_concat'
  · rfl
  rw [dropReturn, List.getLast?_concat]
  split
  · next hc =>
    obtain rfl : c = '\r' := Option.some.inj hc
    have hbytes : encode (s ++ ['\r']) = encode s ++ [13] := encode_append s ['\r']
    rw [hbytes, withoutReturn, List.getLast?_concat, if_pos rfl, List.dropLast_concat,
      List.dropLast_concat]
  · next hc =>
    rw [withoutReturn, if_neg]
    intro hlast
    have hbytes : encode (s ++ [c]) = encode s ++ String.utf8EncodeChar c := by
      rw [encode_append, encode_cons]
      exact congrArg (encode s ++ ·) (List.append_nil _)
    rw [hbytes, List.getLast?_append_of_ne_nil _ String.utf8EncodeChar_ne_nil] at hlast
    have hmem : UInt8.ofNat '\r'.toNat ∈ String.utf8EncodeChar c := List.mem_of_getLast? hlast
    exact hc (congrArg some ((mem_utf8EncodeChar_iff (by decide)).1 hmem))

/-- A text without a line feed, with one behind it, is read back but for a carriage return at its
end. -/
theorem textLines_append_lineFeed (ht : '\n' ∉ t) (text : Text) :
    textLines (encode (t ++ '\n' :: text)) = dropReturn t :: textLines (encode text) := by
  have hl : 10 ∉ encode t := fun h => ht ((mem_encode_iff (d := '\n') (by decide)).1 h)
  have hbytes : encode (t ++ '\n' :: text) = encode t ++ 10 :: encode text :=
    encode_append t ('\n' :: text)
  rw [textLines, hbytes, byteLines_append_lineFeed hl, withoutReturn_encode, decodedLines,
    decode_encode]
  rfl

/-- A text with a carriage return and a line feed behind it is read back. -/
theorem textLines_append_return (ht : '\n' ∉ t) (text : Text) :
    textLines (encode (t ++ '\r' :: '\n' :: text)) = t :: textLines (encode text) := by
  have ht' : '\n' ∉ t ++ ['\r'] := by simp [ht]
  have h := textLines_append_lineFeed ht' text
  rwa [dropReturn, List.getLast?_concat, if_pos rfl, List.dropLast_concat, List.append_assoc] at h

/-- A last text without a line end is read back, unless it is empty. -/
theorem textLines_of_not_mem (hne : t ≠ []) (ht : '\n' ∉ t) : textLines (encode t) = [t] := by
  have hl : 10 ∉ encode t := fun h => ht ((mem_encode_iff (d := '\n') (by decide)).1 h)
  rw [textLines, byteLines_of_not_mem (encode_ne_nil hne) hl, decodedLines, decode_encode]
  rfl

/-- `Written ts text`: the text is `ts`, one a line.  Each is followed by a line feed, or by a
carriage return and a line feed; the last may lack both. -/
inductive Written : List Text → Text → Prop
  | nil : Written [] []
  | last (t : Text) : Written [t] t
  | line {t lineEnd text : Text} {ts : List Text} (hend : lineEnd = ['\n'] ∨ lineEnd = ['\r', '\n'])
      (hrest : Written ts text) : Written (t :: ts) (t ++ lineEnd ++ text)

/-- What is said, phrase by phrase, without blanks around the phrases. -/
def spoken (ts : List Text) : List Text :=
  (ts.map trim).filter fun t => !t.isEmpty

theorem spoken_cons (t : Text) (ts : List Text) :
    spoken (t :: ts) = spoken [t] ++ spoken ts := by
  rw [spoken, List.map_cons, ← List.singleton_append, List.filter_append]
  rfl

/-- A blank behind a text is no part of what is said. -/
theorem trim_concat {c : Char} (hc : isBlank c = true) (t : Text) : trim (t ++ [c]) = trim t := by
  have hstart : trimStart (t ++ [c]) = trimStart t ++ [c] ∨
      trimStart (t ++ [c]) = [] ∧ trimStart t = [] := by
    by_cases hblank : ∀ d ∈ t, isBlank d = true
    · refine .inr ⟨trimStart_eq_nil_iff.2 ?_, trimStart_eq_nil_iff.2 hblank⟩
      exact List.forall_mem_append.2 ⟨hblank, List.forall_mem_singleton.2 hc⟩
    · left
      rw [trimStart, List.dropWhile_append, if_neg]
      · rfl
      · rwa [List.isEmpty_iff, ← trimStart, trimStart_eq_nil_iff]
  obtain hkept | ⟨hnone, hnone'⟩ := hstart
  · rw [trim, hkept, trimEnd, dropEndWhile_concat, if_pos hc]
    rfl
  · rw [trim, hnone, trim, hnone']

theorem trim_dropReturn (t : Text) : trim (dropReturn t) = trim t := by
  rw [dropReturn]
  split
  · next hlast =>
    obtain ⟨s, rfl⟩ := List.getLast?_eq_some_iff.1 hlast
    rw [List.dropLast_concat, trim_concat (by decide)]
  · rfl

/-- **What is said is read back**, by induction on the lines. -/
theorem spoken_textLines {ts : List Text} (h : Written ts text) (hts : ∀ t ∈ ts, '\n' ∉ t) :
    spoken (textLines (encode text)) = spoken ts := by
  induction h with
  | nil => rfl
  | last t =>
      by_cases hne : t = []
      · rw [hne]
        rfl
      · rw [textLines_of_not_mem hne (hts t List.mem_cons_self)]
  | @line t lineEnd text ts hend _ ih =>
      obtain ⟨ht, hts⟩ := List.forall_mem_cons.1 hts
      rw [spoken_cons t, ← ih hts]
      obtain rfl | rfl := hend
      · rw [List.append_assoc, List.singleton_append, textLines_append_lineFeed ht, spoken_cons]
        congr 1
        simp only [spoken, List.map_singleton, trim_dropReturn]
      · rw [List.append_assoc]
        exact (congrArg spoken (textLines_append_return ht text)).trans (spoken_cons _ _)

end SpokenEditor.Text
