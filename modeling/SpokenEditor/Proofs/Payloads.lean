import SpokenEditor.Proofs.CommandForms
import SpokenEditor.Proofs.Occurrences

/-! # What commands carry

The argument of a command is cleaned before the command is built.  The name of a project is trimmed, a
file to be opened is named without blanks and without a misheard ending, and in the path of a new file
the spoken dots have become dots and its first space an underscore.  What cleaning leaves cannot be
cleaned further: a dot that is put in takes no part in another spoken dot, and neither does an
underscore.

* `isInfix_append_cons`, `not_occurs_intercalate`: no place of a pattern reaches over a separator;
* `Text.Underscored`: the first space, and no other, has become an underscore;
* `cleanPath_of_cut`, `Text.Trimmed.underscored`: how a path is cleaned, and that it stays trimmed;
* `isBlank_of_mem_cleanQuery`, `not_ends_cleanQuery`, `cleanQuery_cleanQuery`: the name of a file;
* `parse_cleanPayload`: the arguments of all three commands. -/

namespace SpokenEditor

namespace Text

variable {p s t u : Text}

/-- The text is not empty, and no blank stands at its ends. -/
structure Trimmed (t : Text) : Prop where
  ne_nil : t ≠ []
  head : ∀ c ∈ t.head?, isBlank c = false
  last : ∀ c ∈ t.getLast?, isBlank c = false

theorem trimmed_trim (h : trim t ≠ []) : Trimmed (trim t) :=
  ⟨h, isBlank_head_trim t, isBlank_getLast_trim t⟩

/-- The text ends with the words, up to case. -/
def Ends (words : String) (t : Text) : Prop :=
  ∃ stem h, t = stem ++ h ∧ sameLetters h words.toList = true

theorem Ends.isSuffix {words : String} (h : Ends words t) :
    lowerLetters words.toList <:+ lowerLetters t := by
  obtain ⟨stem, h, rfl, hh⟩ := h
  rw [lowerLetters_append, sameLetters_iff_lowerLetters.1 hh]
  exact List.suffix_append _ _

/-! ### Separators -/

/-- An infix without the separator lies on one side of it. -/
theorem isInfix_append_cons {x : Char} (hx : x ∉ p) :
    p <:+: s ++ x :: t → p <:+: s ∨ p <:+: t := by
  have hstart : ∀ {q}, q <+: x :: t → x ∉ q → q = [] := by
    intro q hq hxq
    cases q with
    | nil => rfl
    | cons d q => exact absurd ((List.cons_prefix_cons.1 hq).1 ▸ List.mem_cons_self) hxq
  intro h
  obtain h | h | ⟨q, r, rfl, hq, hr⟩ := List.infix_append_iff.1 h
  · exact .inl h
  · obtain h | h := List.infix_cons_iff.1 h
    · exact .inl (hstart h hx ▸ List.nil_infix)
    · exact .inr h
  · have hnil := hstart hr fun hmem => hx (List.mem_append_right q hmem)
    rw [hnil, List.append_nil]
    exact .inl hq.isInfix

/-- A pattern without the separator stands on one side of it. -/
theorem occurs_append_cons {x : Char} (hx : x.toLower ∉ lowerLetters p)
    (h : Occurs p (s ++ x :: t)) : Occurs p s ∨ Occurs p t := by
  rw [← isInfix_lowerLetters_iff, lowerLetters_append] at h
  rw [← isInfix_lowerLetters_iff, ← isInfix_lowerLetters_iff]
  exact isInfix_append_cons hx h

/-- A pattern that stands in none of the parts stands nowhere when they are joined. -/
theorem not_occurs_intercalate {x : Char} (hx : x.toLower ∉ lowerLetters p) :
    ∀ (s : Text) (parts : List Text), (∀ part ∈ s :: parts, ¬Occurs p part) →
      ¬Occurs p ([x].intercalate (s :: parts))
  | s, [], hparts => by
      rw [List.intercalate_singleton]
      exact hparts s List.mem_cons_self
  | s, u :: parts, hparts => by
      obtain ⟨hs, hrest⟩ := List.forall_mem_cons.1 hparts
      have ih := not_occurs_intercalate hx u parts hrest
      rw [List.intercalate_cons_cons, List.append_assoc]
      intro h
      obtain h | h := occurs_append_cons hx h
      · exact hs h
      · exact ih h

/-! ### The parts of a path -/

theorem Cut.not_occurs {places : List (Text × Text)} (h : Cut p t s places) :
    ∀ part ∈ s :: places.map Prod.snd, ¬Occurs p part := by
  induction h with
  | whole hs => exact List.forall_mem_singleton.2 hs
  | place hs _ _ ih => exact List.forall_mem_cons.2 ⟨hs, ih⟩

/-- The first part of a trimmed text is not empty if the pattern begins with a space. -/
theorem Cut.head_eq {places : List (Text × Text)} {r : Text} (hp : p = ' ' :: r)
    (h : Cut p t s places) (ht : Trimmed t) : s ≠ [] ∧ s.head? = t.head? := by
  cases h with
  | whole => exact ⟨ht.ne_nil, rfl⟩
  | @place s h t u places _ hh _ =>
      have hs : s ≠ [] := by
        rintro rfl
        rw [sameLetters_iff, hp] at hh
        obtain ⟨d, h, rfl⟩ : ∃ d h', h = d :: h' := by
          cases h with
          | nil => cases hh
          | cons d h => exact ⟨d, h, rfl⟩
        have hd : d.toLower = ' ' := (List.cons.inj hh).1
        have hblank := ht.head d rfl
        rw [← isBlank_toLower, hd] at hblank
        exact absurd hblank (by decide)
      exact ⟨hs, by rw [List.append_assoc, List.head?_append_of_ne_nil _ hs]⟩

/-- The parts of a trimmed text, joined with dots, end with a dot or as the text does. -/
theorem Cut.last_join {places : List (Text × Text)} (h : Cut p t s places)
    (ht : ∀ c ∈ t.getLast?, isBlank c = false) :
    ∀ c ∈ (['.'].intercalate (s :: places.map Prod.snd)).getLast?, isBlank c = false := by
  induction h with
  | whole => simpa using ht
  | @place s h t u places _ _ _ ih =>
      have hlast : ∀ c ∈ t.getLast?, isBlank c = false := fun c hc => by
        refine ht c ?_
        rw [Option.mem_def] at hc ⊢
        rw [List.getLast?_append, hc, Option.some_or]
      intro c hc
      rw [List.map_cons, List.intercalate_cons_cons, List.append_assoc, List.singleton_append,
        List.getLast?_append_cons, List.getLast?_cons, Option.mem_some_iff] at hc
      cases hend : (['.'].intercalate (u :: places.map Prod.snd)).getLast? with
      | none =>
          rw [hend, Option.getD_none] at hc
          exact hc ▸ rfl
      | some d =>
          rw [hend, Option.getD_some] at hc
          exact ih hlast c (hc ▸ hend)

/-- A trimmed text stays trimmed when the places of a pattern that begins with a space become
dots. -/
theorem Trimmed.join {places : List (Text × Text)} {r : Text} (hp : p = ' ' :: r)
    (ht : Trimmed t) (h : Cut p t s places) :
    Trimmed (['.'].intercalate (s :: places.map Prod.snd)) := by
  obtain ⟨hs, hhead⟩ := h.head_eq hp ht
  have hjoin : ∃ rest, ['.'].intercalate (s :: places.map Prod.snd) = s ++ rest := by
    cases places with
    | nil => exact ⟨[], by rw [List.map_nil, List.intercalate_singleton, List.append_nil]⟩
    | cons place places =>
        exact ⟨_, by rw [List.map_cons, List.intercalate_cons_cons, List.append_assoc]⟩
  obtain ⟨rest, hrest⟩ := hjoin
  refine ⟨?_, ?_, h.last_join ht.last⟩
  · rw [hrest]
    exact List.append_ne_nil_of_left_ne_nil hs rest
  · rw [hrest, List.head?_append_of_ne_nil _ hs, hhead]
    exact ht.head

/-! ### The first space -/

/-- `Underscored t u`: the first space of `t`, if it has one, is an underscore in `u`, and nothing
else has changed. -/
def Underscored (t u : Text) : Prop :=
  (' ' ∉ t ∧ u = t) ∨ ∃ a b, t = a ++ ' ' :: b ∧ ' ' ∉ a ∧ u = a ++ '_' :: b

theorem Trimmed.underscored (ht : Trimmed t) (h : Underscored t u) : Trimmed u := by
  obtain ⟨-, rfl⟩ | ⟨a, b, rfl, -, rfl⟩ := h
  · exact ht
  refine ⟨by simp, fun c hc => ?_, fun c hc => ?_⟩
  · cases a with
    | nil => exact Option.some.inj hc ▸ rfl
    | cons d a => exact ht.head c hc
  · have hlast := ht.last
    rw [List.getLast?_append_cons, List.getLast?_cons] at hlast hc
    cases hb : b.getLast? with
    | none =>
        rw [hb] at hc
        exact Option.some.inj hc ▸ rfl
    | some d =>
        rw [hb] at hlast hc
        exact hlast c hc

/-- An underscore brings no pattern about that has none. -/
theorem Underscored.not_occurs (hp : '_' ∉ lowerLetters p) (h : Underscored t u)
    (ht : ¬Occurs p t) : ¬Occurs p u := by
  obtain ⟨-, rfl⟩ | ⟨a, b, rfl, -, rfl⟩ := h
  · exact ht
  intro hu
  obtain ha | hb := occurs_append_cons (x := '_') hp hu
  · exact ht (ha.mono (List.prefix_append a _).isInfix)
  · exact ht (hb.mono ((List.suffix_cons ' ' b).trans (List.suffix_append a _)).isInfix)

end Text

namespace Grammar

variable {t path query : Text}

/-- What stands for a dot in a spoken path. -/
def spokenDot : Text :=
  " dot".toList

theorem underscored_underscoreFirstSpace :
    ∀ t : Text, Text.Underscored t (underscoreFirstSpace t)
  | [] => .inl ⟨by simp, rfl⟩
  | c :: t => by
      rw [underscoreFirstSpace]
      split
      · next hc => exact .inr ⟨[], t, by rw [hc]; rfl, by simp, rfl⟩
      · next hc =>
        have hne : ' ' ≠ c := fun h => hc h.symm
        obtain ⟨hnone, hrest⟩ | ⟨a, b, hsplit, ha, hrest⟩ := underscored_underscoreFirstSpace t
        · exact .inl ⟨by simp [hne, hnone], by rw [hrest]⟩
        · exact .inr ⟨c :: a, b, by rw [hsplit]; rfl, by simp [hne, ha], by rw [hrest]; rfl⟩

/-! ### The path of a new file -/

/-- **How a path is cleaned**: it is taken apart at its spoken dots in the only possible way and put
together with dots, and then the first space becomes an underscore. -/
theorem cleanPath_of_cut (path : Text) :
    ∃ s places, Text.Cut spokenDot path s places ∧
      (∀ s' places', Text.Cut spokenDot path s' places' → s' = s ∧ places' = places) ∧
      Text.Underscored (['.'].intercalate (s :: places.map Prod.snd)) (cleanPath path) := by
  have honce : Text.StartsOnce spokenDot := ⟨' ', "dot".toList, by decide, by decide⟩
  obtain ⟨s, places, hcut, hpieces⟩ := Text.cut_pieces (p := spokenDot) (by decide) path
  refine ⟨s, places, hcut, fun s' places' hcut' => hcut.unique honce hcut', ?_⟩
  rw [← hpieces]
  exact underscored_underscoreFirstSpace _

/-- **A clean path is trimmed and has no spoken dot.** -/
theorem trimmed_cleanPath (h : Text.Trimmed path) :
    Text.Trimmed (cleanPath path) ∧ ¬Text.Occurs spokenDot (cleanPath path) := by
  obtain ⟨s, places, hcut, -, hclean⟩ := cleanPath_of_cut path
  have hdot : '.'.toLower ∉ Text.lowerLetters spokenDot := by decide
  have hunderscore : '_' ∉ Text.lowerLetters spokenDot := by decide
  have hjoin := Text.not_occurs_intercalate hdot s _ hcut.not_occurs
  exact ⟨(h.join rfl hcut).underscored hclean, hclean.not_occurs hunderscore hjoin⟩

/-! ### The name of a file -/

theorem isBlank_of_mem_cleanQuery {c : Char} (h : c ∈ cleanQuery query) :
    Text.isBlank c = false := by
  have hname : ∀ c ∈ Text.squeeze query, Text.isBlank c = false := fun c hc => by
    simpa using (List.mem_filter.1 hc).2
  rw [cleanQuery] at h
  split at h
  · next stem hstem =>
    obtain ⟨ending, -, hdrop⟩ := List.exists_of_findSome?_eq_some hstem
    obtain ⟨_, hsplit, -⟩ := Text.dropEnd?_eq_some_iff.1 hdrop
    obtain hc | hc := List.mem_append.1 h
    · exact hname c (hsplit ▸ List.mem_append_left _ hc)
    · have hpy : "py".toList.all (fun c => !Text.isBlank c) = true := by decide
      simpa using List.all_eq_true.1 hpy c hc
  · exact hname c h

/-- **A clean name has no misheard ending**: an ending that was put right is none. -/
theorem not_ends_cleanQuery (query : Text) :
    ∀ ending ∈ misheardEndings, ¬Text.Ends ending (cleanQuery query) := by
  intro ending hending hends
  rw [cleanQuery] at hends
  split at hends
  · next stem _ =>
    have hpy : ∀ ending ∈ misheardEndings,
        ¬"py".toList <:+ Text.lowerLetters ending.toList ∧
          "py".toList.length ≤ (Text.lowerLetters ending.toList).length := by
      decide
    obtain ⟨hnot, hlength⟩ := hpy ending hending
    have hsuffix := hends.isSuffix
    rw [Text.lowerLetters_append] at hsuffix
    exact hnot (List.suffix_of_suffix_length_le (List.suffix_append _ _) hsuffix hlength)
  · next hnone =>
    obtain ⟨stem, h, hsplit, hh⟩ := hends
    have hdrop := List.findSome?_eq_none_iff.1 hnone ending hending
    rw [Text.dropEnd?_eq_some_iff.2 ⟨h, hsplit, hh⟩] at hdrop
    cases hdrop

/-- A name is clean after one time. -/
theorem cleanQuery_cleanQuery (query : Text) : cleanQuery (cleanQuery query) = cleanQuery query := by
  have hsqueeze : Text.squeeze (cleanQuery query) = cleanQuery query :=
    List.filter_eq_self.2 fun c hc => by rw [isBlank_of_mem_cleanQuery hc]; rfl
  have hnone : (misheardEndings.findSome? fun ending =>
      Text.dropEnd? ending.toList (cleanQuery query)) = none := by
    refine List.findSome?_eq_none_iff.2 fun ending hending => Option.eq_none_iff_forall_ne_some.2 ?_
    intro stem hdrop
    obtain ⟨h, hsplit, hh⟩ := Text.dropEnd?_eq_some_iff.1 hdrop
    exact not_ends_cleanQuery query ending hending ⟨stem, h, hsplit, hh⟩
  rw [cleanQuery.eq_1 (cleanQuery query)]
  simp only [hsqueeze, hnone]

/-! ### Commands -/

/-- **The arguments of commands are clean.**  The name of a project is not empty and has no blanks at
its ends.  A file to be opened is named without blanks, without a misheard ending, and as cleaning
leaves it.  The path of a new file is not empty, has no blanks at its ends and no spoken dot; it is the
trimmed text after the words of the command, taken apart at its spoken dots in the only possible way
and put together with dots, with an underscore for the first space. -/
theorem parse_cleanPayload (t : Text) :
    (∀ name, spoken.parse t = .createProject name → Text.Trimmed name) ∧
    (∀ query, spoken.parse t = .openFile query →
      query ≠ [] ∧ (∀ c ∈ query, Text.isBlank c = false) ∧
        ¬Text.Ends "pay" query ∧ ¬Text.Ends "pai" query ∧ cleanQuery query = query) ∧
    (∀ path, spoken.parse t = .createFile path →
      Text.Trimmed path ∧ ¬Text.Occurs spokenDot path ∧
        ∃ w sep body rest s places, Woken t w sep body ∧
          Text.Begins "create file " (Text.trimEnd body) rest ∧
          Text.Cut spokenDot (Text.trim rest) s places ∧
          (∀ s' places', Text.Cut spokenDot (Text.trim rest) s' places' →
            s' = s ∧ places' = places) ∧
          Text.Underscored (['.'].intercalate (s :: places.map Prod.snd)) path) := by
  have hasks : ∀ {c}, spoken.parse t = c → c ≠ .unrecognized →
      ∃ w sep body, Woken t w sep body ∧ Asks (Text.trimEnd body) c := fun h hc =>
    (parse_eq_iff_accepts t _).1 ⟨h, hc⟩
  refine ⟨fun name h => ?_, fun query h => ?_, fun path h => ?_⟩
  · obtain ⟨w, sep, body, -, hbody⟩ := hasks h (by simp)
    cases hbody with
    | createProject rest hrest =>
      exact Text.trimmed_trim (argument_ne_nil (by simp) hrest (Text.trimEnd_trimEnd body)).1
  · obtain ⟨w, sep, body, -, hbody⟩ := hasks h (by simp)
    cases hbody with
    | openFile rest hrest =>
      have hne := (argument_ne_nil (by simp) hrest (Text.trimEnd_trimEnd body)).2.2
      have hends := not_ends_cleanQuery rest
      exact ⟨hne, fun c => isBlank_of_mem_cleanQuery, hends "pay" (by decide),
        hends "pai" (by decide), cleanQuery_cleanQuery rest⟩
  · obtain ⟨w, sep, body, hwoken, hbody⟩ := hasks h (by simp)
    cases hbody with
    | createFile rest hrest =>
      have hne := (argument_ne_nil (by simp) hrest (Text.trimEnd_trimEnd body)).1
      obtain ⟨htrimmed, hdot⟩ := trimmed_cleanPath (Text.trimmed_trim hne)
      obtain ⟨s, places, hcut, hunique, hclean⟩ := cleanPath_of_cut (Text.trim rest)
      exact ⟨htrimmed, hdot, w, sep, body, rest, s, places, hwoken, hrest, hcut, hunique, hclean⟩

/-- Blanks around a name, a misheard ending in capitals, and two spoken dots with a space between. -/
theorem parse_cleanPayload_spoken :
    (spoken.parse "evoke create project  My  App ".toList = .createProject "My  App".toList ∧
      Text.Trimmed "My  App".toList) ∧
    (spoken.parse "Evok, open set up PAY".toList = .openFile "setuppy".toList ∧
      ¬Text.Ends "pay" "setuppy".toList ∧ cleanQuery "setuppy".toList = "setuppy".toList) ∧
    (spoken.parse "ebook create file my notes dot old DOTtxt".toList =
        .createFile "my_notes. old.txt".toList ∧
      ¬Text.Occurs spokenDot "my_notes. old.txt".toList) := by
  have hproject : spoken.parse "evoke create project  My  App ".toList =
      .createProject "My  App".toList := by decide +kernel
  have hopen : spoken.parse "Evok, open set up PAY".toList = .openFile "setuppy".toList := by
    decide +kernel
  have hfile : spoken.parse "ebook create file my notes dot old DOTtxt".toList =
      .createFile "my_notes. old.txt".toList := by decide +kernel
  obtain ⟨-, -, hpay, -, hclean⟩ := (parse_cleanPayload _).2.1 _ hopen
  exact ⟨⟨hproject, (parse_cleanPayload _).1 _ hproject⟩, ⟨hopen, hpay, hclean⟩, hfile,
    ((parse_cleanPayload _).2.2 _ hfile).2.1⟩

end Grammar
end SpokenEditor
