import SpokenEditor.Proofs.Encoding
import SpokenEditor.Proofs.Payloads
import SpokenEditor.Text.Sliced

/-! # No slice is cut off a character

Offsets that count bytes are found by the lengths of patterns, and a text has characters of several
bytes.  Still no slice is refused, and what comes out is what is dropped, found and replaced character
by character: a slice that is as long as a pattern and has its bytes up to case begins and ends where
characters do.

* `isBoundary_encode_append`, `exists_append_of_isBoundary`: where a slice may end;
* `slice?_encode_iff`: the slices of a text are its parts;
* `dropStart?_encode`, `dropEnd?_encode`: a pattern at the ends;
* `find?_encode_eq_some_iff`: the first place of a pattern;
* `round?_encode`, `replaceAll?_encode`: all of its places;
* `Grammar.slicing_refusesNothing`: what this means for the grammar. -/

namespace SpokenEditor

namespace Bytes

/-! ### One character -/

/-- The first byte of a character begins it, and no other byte does. -/
theorem exists_utf8EncodeChar_eq_cons (c : Char) : ∃ b rest, String.utf8EncodeChar c = b :: rest ∧
    beginsChar b = true ∧ ∀ b' ∈ rest, beginsChar b' = false := by
  obtain ⟨hc, h⟩ | ⟨-, b, rest, h, hb, hrest⟩ := Text.utf8EncodeChar_cases c
  · refine ⟨_, [], h, ?_, List.forall_mem_nil _⟩
    rw [beginsChar, Text.toNat_ofNat_of_ascii hc]
    simp [hc]
  · refine ⟨b, rest, h, by simp [beginsChar, hb], fun b' hb' => ?_⟩
    obtain ⟨hlow, hhigh⟩ := hrest b' hb'
    simp [beginsChar, hlow, hhigh]

theorem lowerByte_of_le {b : UInt8} (h : 0x80 ≤ b.toNat) : lowerByte b = b :=
  if_neg (by omega)

theorem isUpper_iff {c : Char} : c.isUpper = true ↔ 65 ≤ c.toNat ∧ c.toNat ≤ 90 := by
  rw [Char.isUpper, decide_eq_true_eq, ge_iff_le, UInt32.le_iff_toNat_le, UInt32.le_iff_toNat_le]
  rfl

theorem toNat_toLower_of_isUpper {c : Char} (h : c.isUpper = true) :
    c.toLower.toNat = c.toNat + 32 := by
  have hn := isUpper_iff.1 h
  rw [Char.toLower_eq_of_isUpper h, Char.toNat_ofNat, if_pos (.inl (by omega))]

/-- Lowering a character lowers its bytes: a byte that is a capital letter is a character. -/
theorem map_lowerByte_utf8EncodeChar (c : Char) :
    (String.utf8EncodeChar c).map lowerByte = String.utf8EncodeChar c.toLower := by
  by_cases hu : c.isUpper = true
  · have hn := isUpper_iff.1 hu
    have hlower := toNat_toLower_of_isUpper hu
    obtain ⟨hc, h⟩ | ⟨hc, -⟩ := Text.utf8EncodeChar_cases c
    · obtain ⟨-, h'⟩ | ⟨hc', -⟩ := Text.utf8EncodeChar_cases c.toLower
      · have hbyte : (UInt8.ofNat c.toNat).toNat = c.toNat :=
          UInt8.toNat_ofNat_of_lt' (Nat.lt_trans hc (by decide))
        rw [h, h', hlower, List.map_singleton, lowerByte, hbyte, if_pos hn, UInt8.ofNat_add]
        rfl
      · omega
    · omega
  · rw [Char.toLower_eq_of_not_isUpper hu]
    rw [isUpper_iff] at hu
    obtain ⟨hc, h⟩ | ⟨-, b, rest, h, hb, hrest⟩ := Text.utf8EncodeChar_cases c
    · have hbyte : (UInt8.ofNat c.toNat).toNat = c.toNat :=
        UInt8.toNat_ofNat_of_lt' (Nat.lt_trans hc (by decide))
      rw [h, List.map_singleton, lowerByte, hbyte, if_neg hu]
    · have hhigh : ∀ b' ∈ b :: rest, lowerByte b' = b' := List.forall_mem_cons.2
        ⟨lowerByte_of_le (by omega), fun b' hb' => lowerByte_of_le (hrest b' hb').1⟩
      rw [h, List.map_congr_left hhigh, List.map_id']

end Bytes

namespace Text

variable {p s t : Text}

theorem map_lowerByte_encode :
    ∀ t : Text, (encode t).map Bytes.lowerByte = encode (t.map Char.toLower)
  | [] => rfl
  | c :: t => by
      rw [encode_cons, List.map_append, Bytes.map_lowerByte_utf8EncodeChar, map_lowerByte_encode t,
        List.map_cons, encode_cons]

/-- **Texts are equal up to case exactly if their bytes are.** -/
theorem sameLetters_encode (s t : Text) :
    Bytes.sameLetters (encode s) (encode t) = sameLetters s t := by
  rw [Bool.eq_iff_iff, sameLetters_iff, Bytes.sameLetters, beq_iff_eq, map_lowerByte_encode,
    map_lowerByte_encode]
  exact ⟨encode_injective, congrArg encode⟩

/-- Texts that are equal up to case have equally many bytes. -/
theorem length_encode_of_sameLetters (h : sameLetters s t = true) :
    (encode s).length = (encode t).length := by
  rw [← sameLetters_encode, Bytes.sameLetters, beq_iff_eq] at h
  simpa using congrArg List.length h

/-! ### Slices -/

/-- Behind a part of the text a slice may end where it may end in the rest. -/
theorem isBoundary_encode_append (a t : Text) (j : Nat) :
    Bytes.isBoundary (encode (a ++ t)) ((encode a).length + j) = Bytes.isBoundary (encode t) j := by
  have hbyte : (encode (a ++ t))[(encode a).length + j]? = (encode t)[j]? := by
    rw [encode_append, List.getElem?_append_right (Nat.le_add_right _ _), Nat.add_sub_cancel_left]
  have hlength : (encode (a ++ t)).length = (encode a).length + (encode t).length := by
    rw [encode_append, List.length_append]
  rw [Bytes.isBoundary, Bytes.isBoundary, hbyte, hlength]
  cases j with
  | zero =>
      show (_ || _) = true
      rw [Bool.or_eq_true]
      right
      cases t with
      | nil => simp [encode]
      | cons c t =>
          obtain ⟨first, rest, hchar, hfirst, -⟩ := Bytes.exists_utf8EncodeChar_eq_cons c
          rw [encode_cons, hchar]
          exact hfirst
  | succ j =>
      rw [Bool.eq_iff_iff]
      cases (encode t)[j + 1]? <;> simp

/-- **A slice may end only where a part of the text does**, by induction on the text. -/
theorem exists_append_of_isBoundary : ∀ {t : Text} {i : Nat},
    Bytes.isBoundary (encode t) i = true → ∃ a b, t = a ++ b ∧ (encode a).length = i
  | t, 0, _ => ⟨[], t, rfl, rfl⟩
  | [], i + 1, h => absurd (Bytes.le_length_of_isBoundary h) (by simp [encode])
  | c :: t, i + 1, h => by
      obtain ⟨first, rest, hchar, -, hrest⟩ := Bytes.exists_utf8EncodeChar_eq_cons c
      have hone : encode [c] = first :: rest := by rw [encode_cons, hchar]; exact List.append_nil _
      by_cases hi : i < rest.length
      · -- the offset is inside the character
        have hbyte : (encode (c :: t))[i + 1]? = some rest[i] := by
          rw [encode_cons, hchar, List.cons_append, List.getElem?_cons_succ,
            List.getElem?_append_left hi, List.getElem?_eq_getElem hi]
        simp [Bytes.isBoundary, hbyte, hrest _ (List.getElem_mem hi)] at h
      · obtain ⟨j, hj⟩ := Nat.exists_eq_add_of_le (Nat.le_of_not_lt hi)
        have hoffset : i + 1 = (encode [c]).length + j := by
          rw [hone, List.length_cons]
          omega
        have hrest := isBoundary_encode_append [c] t j
        rw [← hoffset, List.singleton_append, h] at hrest
        obtain ⟨a, b, rfl, rfl⟩ := exists_append_of_isBoundary hrest.symm
        exact ⟨c :: a, b, rfl, by rw [hoffset, ← List.length_append, ← encode_append]; rfl⟩

/-- The bytes of a part of the text. -/
theorem drop_take_encode (a b c : Text) :
    ((encode (a ++ b ++ c)).take (encode (a ++ b)).length).drop (encode a).length = encode b := by
  rw [encode_append (a ++ b), List.take_left, encode_append, List.drop_left]

/-- **The slices of a text are its parts.** -/
theorem slice?_encode_iff {i j : Nat} {part : Bytes} :
    Bytes.slice? (encode t) i j = some part ↔ ∃ a b c, t = a ++ b ++ c ∧
      (encode a).length = i ∧ (encode (a ++ b)).length = j ∧ part = encode b := by
  rw [Bytes.slice?]
  constructor
  · intro h
    split at h
    · next hbounds =>
      obtain ⟨hij, hi, hj⟩ := hbounds
      obtain ⟨a, r, ht, rfl⟩ := exists_append_of_isBoundary hi
      obtain ⟨s, c, rfl, rfl⟩ := exists_append_of_isBoundary hj
      obtain ⟨b, rfl⟩ : ∃ b, s = a ++ b := by
        obtain ⟨x, rfl, -⟩ | ⟨b, rfl, -⟩ := List.append_eq_append_iff.1 ht
        · rw [encode_append, List.length_append] at hij
          obtain rfl : x = [] := eq_nil_of_length_encode (by omega)
          exact ⟨[], by rw [List.append_nil, List.append_nil]⟩
        · exact ⟨b, rfl⟩
      exact ⟨a, b, c, rfl, rfl, rfl, by rw [← drop_take_encode a b c]; exact (Option.some.inj h).symm⟩
    · cases h
  · rintro ⟨a, b, c, rfl, rfl, rfl, rfl⟩
    have hi := isBoundary_encode_append a (b ++ c) 0
    have hj := isBoundary_encode_append (a ++ b) c 0
    rw [← List.append_assoc] at hi
    rw [drop_take_encode, if_pos ⟨by simp [encode_append], hi, hj⟩]

theorem slice?_encode_append (a b c : Text) :
    Bytes.slice? (encode (a ++ b ++ c)) (encode a).length (encode (a ++ b)).length =
      some (encode b) :=
  slice?_encode_iff.2 ⟨a, b, c, rfl, rfl, rfl, rfl⟩

theorem slice?_encode_start (a b : Text) :
    Bytes.slice? (encode (a ++ b)) 0 (encode a).length = some (encode a) :=
  slice?_encode_append [] a b

theorem slice?_encode_end (a b : Text) :
    Bytes.slice? (encode (a ++ b)) (encode a).length (encode (a ++ b)).length = some (encode b) := by
  have h := slice?_encode_append a b []
  rwa [List.append_nil] at h

/-! ### Patterns at the ends -/

/-- **No slice is refused at the start of a text**, and what is dropped is the pattern. -/
theorem dropStart?_encode (p t : Text) :
    Bytes.dropStart? (encode p) (encode t) = some ((dropStart? p t).map encode) := by
  rw [Bytes.dropStart?]
  cases hdrop : dropStart? p t with
  | some r =>
      obtain ⟨h, rfl, hh⟩ := dropStart?_eq_some_iff.1 hdrop
      rw [← length_encode_of_sameLetters hh, slice?_encode_start, slice?_encode_end]
      dsimp only
      rw [sameLetters_encode, if_pos hh]
      rfl
  | none =>
      split
      · rfl
      · next head hhead =>
        obtain ⟨a, h, r, rfl, ha, -, rfl⟩ := slice?_encode_iff.1 hhead
        obtain rfl := eq_nil_of_length_encode ha
        rw [sameLetters_encode, if_neg]
        · rfl
        · intro hh
          have hsome : dropStart? p ([] ++ h ++ r) = some r := dropStart?_eq_some_iff.2 ⟨h, rfl, hh⟩
          rw [hdrop] at hsome
          cases hsome

/-- **Nor is one at the end.** -/
theorem dropEnd?_encode (p t : Text) :
    Bytes.dropEnd? (encode p) (encode t) = some ((dropEnd? p t).map encode) := by
  rw [Bytes.dropEnd?]
  cases hdrop : dropEnd? p t with
  | some r =>
      obtain ⟨h, rfl, hh⟩ := dropEnd?_eq_some_iff.1 hdrop
      have hlength := length_encode_of_sameLetters hh
      have hstart : (encode (r ++ h)).length - (encode p).length = (encode r).length := by
        rw [encode_append, List.length_append, hlength, Nat.add_sub_cancel]
      rw [if_neg (by rw [encode_append, List.length_append]; omega)]
      dsimp only
      rw [hstart, slice?_encode_end, slice?_encode_start]
      dsimp only
      rw [sameLetters_encode, if_pos hh]
      rfl
  | none =>
      split
      · rfl
      dsimp only
      split
      · rfl
      · next tail htail =>
        obtain ⟨r, h, b, rfl, -, hlength, rfl⟩ := slice?_encode_iff.1 htail
        obtain rfl : b = [] := by
          refine eq_nil_of_length_encode ?_
          rw [encode_append (r ++ h), List.length_append] at hlength
          omega
        rw [sameLetters_encode, if_neg]
        · rfl
        · intro hh
          have hsome : dropEnd? p (r ++ h ++ []) = some r :=
            dropEnd?_eq_some_iff.2 ⟨h, List.append_nil _, hh⟩
          rw [hdrop] at hsome
          cases hsome

/-! ### Patterns anywhere -/

/-- The text is parted before and after a place of the pattern, which begins at this offset. -/
def StandsAt (p t : Text) (i : Nat) : Prop :=
  ∃ a h b, t = a ++ h ++ b ∧ sameLetters h p = true ∧ (encode a).length = i

theorem any_slice?_encode_iff {i : Nat} :
    ((Bytes.slice? (encode t) i (i + (encode p).length)).any
      fun part => Bytes.sameLetters part (encode p)) = true ↔ StandsAt p t i := by
  rw [Option.any_eq_true]
  constructor
  · rintro ⟨part, hpart, hh⟩
    obtain ⟨a, h, b, rfl, hi, -, rfl⟩ := slice?_encode_iff.1 hpart
    exact ⟨a, h, b, rfl, sameLetters_encode h p ▸ hh, hi⟩
  · rintro ⟨a, h, b, rfl, hh, rfl⟩
    have hlength : (encode a).length + (encode p).length = (encode (a ++ h)).length := by
      rw [encode_append, List.length_append, length_encode_of_sameLetters hh]
    exact ⟨encode h, by rw [hlength, slice?_encode_append], by rwa [sameLetters_encode]⟩

/-- Where a pattern stands, a character begins. -/
theorem StandsAt.mem_charOffsets (hp : p ≠ []) {i : Nat} (h : StandsAt p t i) :
    i < (encode t).length ∧ Bytes.isBoundary (encode t) i = true := by
  obtain ⟨a, h, b, rfl, hh, rfl⟩ := h
  have hpos : 0 < (encode h).length := by
    rw [length_encode_of_sameLetters hh]
    exact List.length_pos_iff.2 (encode_ne_nil hp)
  have hboundary := isBoundary_encode_append a (h ++ b) 0
  rw [← List.append_assoc] at hboundary
  refine ⟨?_, hboundary⟩
  rw [encode_append (a ++ h), encode_append a, List.length_append, List.length_append]
  omega

/-- The test at each offset of the search. -/
theorem standsAt_iff (hp : p ≠ []) {i : Nat} :
    decide (Bytes.isBoundary (encode t) i = true ∧
      ((Bytes.slice? (encode t) i (i + (encode p).length)).any
        fun part => Bytes.sameLetters part (encode p)) = true) = true ↔ StandsAt p t i := by
  rw [decide_eq_true_iff, any_slice?_encode_iff]
  exact and_iff_right_of_imp fun h => (h.mem_charOffsets hp).2

/-- **The search finds the first offset at which the pattern stands.** -/
theorem find?_encode_eq_some_iff (hp : p ≠ []) {i : Nat} :
    Bytes.find? (encode p) (encode t) = some i ↔
      StandsAt p t i ∧ ∀ j, StandsAt p t j → i ≤ j := by
  rw [Bytes.find?, Bytes.charOffsets, List.find?_filter, List.find?_range_eq_some, standsAt_iff hp,
    List.mem_range]
  constructor
  · rintro ⟨h, -, hfirst⟩
    refine ⟨h, fun j hj => Nat.le_of_not_lt fun hlt => ?_⟩
    have hnot := hfirst j hlt
    rw [(standsAt_iff hp).2 hj] at hnot
    cases hnot
  · rintro ⟨h, hfirst⟩
    refine ⟨h, (h.mem_charOffsets hp).1, fun j hlt => ?_⟩
    rw [Bool.not_eq_true', ← Bool.not_eq_true, standsAt_iff hp]
    exact fun hj => absurd (hfirst j hj) (Nat.not_le_of_lt hlt)

theorem find?_encode_eq_none_iff (hp : p ≠ []) :
    Bytes.find? (encode p) (encode t) = none ↔ ∀ i, ¬StandsAt p t i := by
  rw [Bytes.find?, Bytes.charOffsets, List.find?_filter, List.find?_range_eq_none]
  constructor
  · intro h i hi
    have hnot := h i (hi.mem_charOffsets hp).1
    rw [(standsAt_iff hp).2 hi] at hnot
    cases hnot
  · intro h i _
    rw [Bool.not_eq_true', ← Bool.not_eq_true, standsAt_iff hp]
    exact h i

/-! ### Replacing -/

/-- **A round refuses no slice**, and it cuts the text where the characters are cut. -/
theorem round?_encode (hp : p ≠ []) (t : Text) :
    Bytes.round? (encode p) (encode t) =
      some ((cutFirst? p t).map fun (a, b) => (encode a, encode b)) := by
  rw [Bytes.round?]
  cases hcut : cutFirst? p t with
  | none =>
      have hnone : Bytes.find? (encode p) (encode t) = none := by
        rw [find?_encode_eq_none_iff hp]
        rintro i ⟨a, h, b, ht, hh, -⟩
        exact (cutFirst?_eq_none_iff hp).1 hcut ⟨a, h, b, ht, hh⟩
      rw [hnone]
      rfl
  | some parts =>
      obtain ⟨a, b⟩ := parts
      obtain ⟨h, rfl, hh⟩ := cutFirst?_eq hcut
      have hsome : Bytes.find? (encode p) (encode (a ++ h ++ b)) = some (encode a).length := by
        rw [find?_encode_eq_some_iff hp]
        refine ⟨⟨a, h, b, rfl, hh, rfl⟩, ?_⟩
        rintro _ ⟨a', h', b', ht, hh', rfl⟩
        -- the leftmost place in characters is the leftmost one in bytes
        have hle := length_le_of_cutFirst? hcut ht hh'
        have hfront : a <+: a ++ h ++ b := ⟨h ++ b, (List.append_assoc a h b).symm⟩
        have hfront' : a' <+: a ++ h ++ b := ⟨h' ++ b', by rw [ht, List.append_assoc]⟩
        obtain ⟨x, rfl⟩ := List.prefix_of_prefix_length_le hfront hfront' hle
        rw [encode_append, List.length_append]
        exact Nat.le_add_right _ _
      have hbehind : (encode a).length + (encode p).length = (encode (a ++ h)).length := by
        rw [encode_append, List.length_append, length_encode_of_sameLetters hh]
      have hchunk := slice?_encode_start a (h ++ b)
      rw [← List.append_assoc] at hchunk
      rw [hsome]
      dsimp only
      rw [hchunk, hbehind, slice?_encode_end]
      rfl

/-- **No replacement refuses a slice**, by induction on its rounds: it puts the pieces of the text
together. -/
theorem replaceAll?_encode (hp : p ≠ []) (new done t : Text) :
    Bytes.replaceAll? (encode p) (encode_ne_nil hp) (encode new) (encode done) (encode t) =
      some (encode (done ++ new.intercalate (pieces p hp t))) := by
  rw [Bytes.replaceAll?]
  have hround := round?_encode hp t
  split
  · next hnone => rw [hround] at hnone; cases hnone
  · next hnone =>
    rw [hround, Option.some.injEq, Option.map_eq_none_iff] at hnone
    rw [pieces_of_cutFirst?_none hp hnone, List.intercalate_singleton, encode_append]
  · next chunk rest hsome =>
    rw [hround, Option.some.injEq, Option.map_eq_some_iff] at hsome
    obtain ⟨⟨a, b⟩, hcut, heq⟩ := hsome
    obtain ⟨rfl, rfl⟩ := Prod.mk.inj heq
    have ih := replaceAll?_encode hp new (done ++ a ++ new) b
    obtain ⟨q, places, -, hb⟩ := cut_pieces hp b
    rw [← encode_append, ← encode_append, ih, pieces_of_cutFirst?_some hp hcut, hb,
      List.intercalate_cons_cons]
    simp only [List.append_assoc]
termination_by t.length
decreasing_by exact length_lt_of_cutFirst? hp hcut

end Text

namespace Grammar

/-- The byte of the first space becomes the one of an underscore. -/
theorem replace_encode : ∀ t : Text,
    (Text.encode t).replace 0x20 0x5F = Text.encode (underscoreFirstSpace t)
  | [] => rfl
  | c :: t => by
      rw [underscoreFirstSpace, Text.encode_cons]
      split
      · next hc =>
        rw [hc, Text.encode_cons]
        rfl
      · next hc =>
        have hfree : (0x20 : UInt8) ∉ String.utf8EncodeChar c := fun hmem =>
          hc ((Text.mem_utf8EncodeChar_iff (d := ' ') (by decide)).1 hmem)
        rw [List.replace_append_right hfree, replace_encode t, Text.encode_cons]

/-- The path of a new file, cleaned by slices: what stands before a spoken dot is put aside with a
dot, and the search goes on behind it. -/
def slicedPath? (path : Bytes) : Option Bytes :=
  (Bytes.replaceAll? (Text.encode spokenDot) (by decide) (Text.encode ['.']) [] path).map
    fun cleaned => cleaned.replace 0x20 0x5F

theorem slicedPath?_encode (t : Text) :
    slicedPath? (Text.encode t) = some (Text.encode (cleanPath t)) := by
  have hreplace := Text.replaceAll?_encode (p := spokenDot) (by decide) ['.'] [] t
  rw [slicedPath?, show ([] : Bytes) = Text.encode [] from rfl, hreplace, Option.map_some,
    replace_encode]
  rfl

/-- **No slice of the grammar is refused, whatever the text**, and slices mean what they say.  A
pattern is dropped from the start or the end of a text exactly if the characters there are those of
the pattern up to case, and the other characters are left.  The search finds the first place of the
pattern.  A round of a replacement that finds one leaves fewer bytes to be searched, and all rounds
together put the pieces between the places together; so a path is cleaned. -/
theorem slicing_refusesNothing (p t : Text) :
    (Bytes.dropStart? (Text.encode p) (Text.encode t) =
        some ((Text.dropStart? p t).map Text.encode) ∧
      ∀ r, Text.dropStart? p t = some r ↔ ∃ h, t = h ++ r ∧ Text.sameLetters h p = true) ∧
    (Bytes.dropEnd? (Text.encode p) (Text.encode t) =
        some ((Text.dropEnd? p t).map Text.encode) ∧
      ∀ r, Text.dropEnd? p t = some r ↔ ∃ h, t = r ++ h ∧ Text.sameLetters h p = true) ∧
    slicedPath? (Text.encode t) = some (Text.encode (cleanPath t)) ∧
    ∀ hp : p ≠ [],
      (∀ i, Bytes.find? (Text.encode p) (Text.encode t) = some i ↔
        Text.StandsAt p t i ∧ ∀ j, Text.StandsAt p t j → i ≤ j) ∧
      (∃ cut, Bytes.round? (Text.encode p) (Text.encode t) = some cut ∧
        (cut = none ↔ ¬Text.Occurs p t) ∧
        ∀ chunk rest, cut = some (chunk, rest) → rest.length < (Text.encode t).length ∧
          ∃ a h b, t = a ++ h ++ b ∧ Text.sameLetters h p = true ∧ chunk = Text.encode a ∧
            rest = Text.encode b) ∧
      ∀ new done, Bytes.replaceAll? (Text.encode p) (Text.encode_ne_nil hp) (Text.encode new)
          (Text.encode done) (Text.encode t) =
        some (Text.encode (done ++ new.intercalate (Text.pieces p hp t))) := by
  refine ⟨⟨Text.dropStart?_encode p t, fun r => Text.dropStart?_eq_some_iff⟩,
    ⟨Text.dropEnd?_encode p t, fun r => Text.dropEnd?_eq_some_iff⟩, slicedPath?_encode t,
    fun hp => ⟨fun i => Text.find?_encode_eq_some_iff hp, ⟨_, Text.round?_encode hp t, ?_, ?_⟩,
      fun new done => Text.replaceAll?_encode hp new done t⟩⟩
  · rw [Option.map_eq_none_iff, Text.cutFirst?_eq_none_iff hp]
  · intro chunk rest hcut
    have hround := Text.round?_encode hp t
    rw [hcut] at hround
    refine ⟨Bytes.length_lt_of_round? (Text.encode_ne_nil hp) hround, ?_⟩
    obtain ⟨⟨a, b⟩, hab, heq⟩ := Option.map_eq_some_iff.1 hcut
    obtain ⟨rfl, rfl⟩ := Prod.mk.inj heq
    obtain ⟨h, ht, hh⟩ := Text.cutFirst?_eq hab
    exact ⟨a, h, b, ht, hh, rfl, rfl⟩

/-- The first four bytes end inside the second character, and both places of the pattern are behind
characters of several bytes. -/
theorem slicing_refusesNothing_spokenDot :
    let t := "日本 café DOTtxt dot".toList
    spokenDot ≠ [] ∧
      Bytes.dropStart? (Text.encode spokenDot) (Text.encode t) = some none ∧
      Bytes.dropEnd? (Text.encode spokenDot) (Text.encode t) =
        some (some (Text.encode "日本 café DOTtxt".toList)) ∧
      slicedPath? (Text.encode t) = some (Text.encode "日本_café.txt.".toList) ∧
      Bytes.replaceAll? (Text.encode spokenDot) (by decide) (Text.encode "/".toList) []
        (Text.encode t) = some (Text.encode "日本 café/txt/".toList) := by
  intro t
  have hp : spokenDot ≠ [] := by decide
  have hdropStart : Text.dropStart? spokenDot t = none := by decide
  have hdropEnd : Text.dropEnd? spokenDot t = some "日本 café DOTtxt".toList := by decide +kernel
  have hclean : cleanPath t = "日本_café.txt.".toList := by decide +kernel
  have hpieces : "/".toList.intercalate (Text.pieces spokenDot (by decide) t) =
      "日本 café/txt/".toList := by decide +kernel
  obtain ⟨⟨hstart, -⟩, ⟨hend, -⟩, hpath, hplaces⟩ := slicing_refusesNothing spokenDot t
  have hreplaced := (hplaces hp).2.2 "/".toList []
  rw [hdropStart] at hstart
  rw [hdropEnd] at hend
  rw [hclean] at hpath
  rw [List.nil_append, hpieces] at hreplaced
  exact ⟨hp, hstart, hend, hpath, hreplaced⟩

end Grammar
end SpokenEditor
