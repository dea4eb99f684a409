import SpokenEditor.Proofs.WakeWords

/-! # What a body asks for

`Asks body c` lists the forms of command that a body may have, each with the command it stands for,
without the order in which the rules are tried.  That order does not matter: the words with which
the forms begin do not begin one another, so no body has two forms.  And what follows the words of a
form is never empty, since they end with a space and a body does not.

* `findSome?_eq_some_iff_of_countP`, `findSome?_eq_of_perm`: a table in which at most one entry
  answers;
* `exclusive_rules`, `countP_rules_le_one`: at most one rule matches a body;
* `Text.Begins.exists_not_isBlank`: something follows the words of a form;
* `exists_rule_iff_asks`: the rules match the forms;
* `parse_iff_accepts`: the grammar accepts exactly the phrases that are split into a wake word,
  separators and such a body. -/

namespace SpokenEditor

/-! ### Tables -/

section Table

variable {α β : Type} {f : α → Option β} {l l' : List α} {b : β}

/-- If no two entries answer together, at most one answers. -/
theorem countP_isSome_le_one
    (h : l.Pairwise fun a a' => ∀ b, f a = some b → ∀ b', f a' = some b' → False) :
    l.countP (fun a => (f a).isSome) ≤ 1 := by
  have hanswers : (l.filterMap f).Pairwise fun _ _ => False := List.pairwise_filterMap.2 h
  rw [← List.length_filterMap_eq_countP]
  match l.filterMap f, hanswers with
  | [], _ => exact Nat.zero_le 1
  | [_], _ => exact le_rfl
  | b :: c :: bs, hanswers => exact (List.rel_of_pairwise_cons hanswers List.mem_cons_self).elim

/-- If at most one entry answers, the first answer is the only one. -/
theorem findSome?_eq_some_iff_of_countP (hone : l.countP (fun a => (f a).isSome) ≤ 1) :
    l.findSome? f = some b ↔ ∃ a ∈ l, f a = some b := by
  rw [← List.length_filterMap_eq_countP] at hone
  rw [← List.head?_filterMap, ← List.mem_filterMap]
  match l.filterMap f, hone with
  | [], _ => simp
  | [c], _ => simp [eq_comm]

/-- If at most one entry answers, the order of the entries does not matter. -/
theorem findSome?_eq_of_perm (h : l.Perm l') (hone : l.countP (fun a => (f a).isSome) ≤ 1) :
    l.findSome? f = l'.findSome? f := by
  have hone' : l'.countP (fun a => (f a).isSome) ≤ 1 := h.countP_eq _ ▸ hone
  refine Option.ext fun b => ?_
  rw [findSome?_eq_some_iff_of_countP hone, findSome?_eq_some_iff_of_countP hone']
  simp only [h.mem_iff]

end Table

namespace Text

/-- The text begins with the words, up to case, and goes on with the rest. -/
def Begins (words : String) (t rest : Text) : Prop :=
  ∃ h, t = h ++ rest ∧ sameLetters h words.toList = true

variable {t rest : Text} {words : String}

/-- What follows words with a space at their end is not blank. -/
theorem Begins.exists_not_isBlank (h : Begins words t rest)
    (hspace : words.toList.getLast? = some ' ') (hend : trimEnd t = t) :
    ∃ c ∈ rest, isBlank c = false := by
  rw [trimEnd_eq_self_iff] at hend
  obtain ⟨p, rfl, hp⟩ := h
  cases rest with
  | nil =>
      have hlast := congrArg List.getLast? (sameLetters_iff.1 hp)
      rw [List.getLast?_map, List.getLast?_map, hspace] at hlast
      obtain ⟨c, hc, hlower⟩ := Option.map_eq_some_iff.1 hlast
      have hblank : isBlank c = true := by
        rw [← isBlank_toLower, hlower]
        rfl
      rw [List.append_nil] at hend
      exact absurd (hblank.symm.trans (hend c hc)) (by simp)
  | cons d r =>
      have hlast : (p ++ d :: r).getLast? = some ((d :: r).getLast (by simp)) := by
        rw [List.getLast?_append_of_ne_nil _ (by simp), List.getLast?_eq_some_getLast]
      exact ⟨_, List.getLast_mem (by simp), hend _ hlast⟩

/-- Words that do not begin with a blank begin the trimmed text too. -/
theorem Begins.isPrefix_trim (h : Begins words t rest)
    (hlower : words.toList.map Char.toLower = words.toList)
    (hhead : ∃ c ∈ words.toList.head?, isBlank c = false) (hend : trimEnd t = t) :
    words.toList <+: (trim t).map Char.toLower := by
  obtain ⟨p, rfl, hp⟩ := h
  rw [sameLetters_iff, hlower] at hp
  have hstart : ∀ c ∈ (p ++ rest).head?, isBlank c = false := by
    obtain ⟨d, hd, hblank⟩ := hhead
    rw [← hp, List.head?_map] at hd
    obtain ⟨c, hc, rfl⟩ := Option.map_eq_some_iff.1 hd
    rw [isBlank_toLower] at hblank
    rw [List.head?_append_of_ne_nil _ (by rintro rfl; cases hc), hc]
    rintro _ ⟨⟩
    exact hblank
  rw [trim, trimStart, dropWhile_of_head hstart, hend, List.map_append, hp]
  exact List.prefix_append _ _

end Text

namespace Grammar

variable {body rest : Text} {c : Command}

/-! ### Arguments -/

theorem underscoreFirstSpace_ne_nil {t : Text} (h : t ≠ []) : underscoreFirstSpace t ≠ [] := by
  cases t with
  | nil => exact absurd rfl h
  | cons c t =>
      rw [underscoreFirstSpace]
      split <;> simp

/-- The path of a file does not vanish when it is cleaned: a spoken dot leaves a dot. -/
theorem cleanPath_ne_nil {path : Text} (h : path ≠ []) : cleanPath path ≠ [] := by
  refine underscoreFirstSpace_ne_nil ?_
  rw [Text.pieces]
  split
  · simpa using h
  · next a b _ =>
    obtain ⟨p, ps, hpieces⟩ : ∃ p ps, Text.pieces " dot".toList (by decide) b = p :: ps := by
      rw [Text.pieces]
      split
      · exact ⟨_, _, rfl⟩
      · exact ⟨_, _, rfl⟩
    rw [hpieces, List.intercalate_cons_cons]
    simp

/-- Nor does a file name. -/
theorem cleanQuery_ne_nil {query : Text} (h : ∃ c ∈ query, Text.isBlank c = false) :
    cleanQuery query ≠ [] := by
  obtain ⟨c, hc, hblank⟩ := h
  have hname : c ∈ Text.squeeze query := List.mem_filter.2 ⟨hc, by rw [hblank]; rfl⟩
  rw [cleanQuery]
  split
  · simp
  · exact List.ne_nil_of_mem hname

end Grammar

/-! ### The rules exclude each other -/

namespace Rule

/-- The bodies of the rule, trimmed and in lowercase, begin with one of the texts. -/
def StartsWith (starts : List String) (rule : Rule) : Prop :=
  ∀ ⦃body : Text⦄ ⦃c : Command⦄, Text.trimEnd body = body → rule body = some c →
    ∃ p ∈ starts, p.toList <+: (Text.trim body).map Char.toLower

/-- No body matches both rules. -/
def Excludes (rule rule' : Rule) : Prop :=
  ∀ ⦃body : Text⦄ ⦃c c' : Command⦄, Text.trimEnd body = body → rule body = some c →
    rule' body = some c' → False

theorem startsWith_phrase {phrases : List String} {command : Command}
    (hlower : ∀ p ∈ phrases, p.toList.map Char.toLower = p.toList) :
    StartsWith phrases (phrase phrases command) := by
  intro body c _ h
  obtain ⟨⟨p, hp, hsame⟩, -⟩ := phrase_eq_some_iff.1 h
  refine ⟨p, hp, ?_⟩
  rw [Text.sameLetters_iff.1 hsame, hlower p hp]

theorem startsWith_argument {start : String} {clean : Text → Text} {command : Text → Command}
    (hlower : start.toList.map Char.toLower = start.toList)
    (hhead : ∃ c ∈ start.toList.head?, Text.isBlank c = false) :
    StartsWith [start] (argument start clean command) := by
  intro body c hend h
  obtain ⟨rest, hrest, -⟩ := argument_eq_some_iff.1 h
  have hbegins : Text.Begins start body rest := Text.dropStart?_eq_some_iff.1 hrest
  exact ⟨start, List.mem_singleton_self start, hbegins.isPrefix_trim hlower hhead hend⟩

/-- Rules exclude each other if their starts do not begin one another. -/
theorem StartsWith.excludes {starts starts' : List String} {rule rule' : Rule}
    (h : rule.StartsWith starts) (h' : rule'.StartsWith starts')
    (hfree : ∀ p ∈ starts, ∀ q ∈ starts', ¬p.toList <+: q.toList ∧ ¬q.toList <+: p.toList) :
    rule.Excludes rule' := by
  intro body c c' hend hc hc'
  obtain ⟨p, hp, hpre⟩ := h hend hc
  obtain ⟨q, hq, hpre'⟩ := h' hend hc'
  obtain hpq | hqp := List.prefix_or_prefix_of_prefix hpre hpre'
  · exact (hfree p hp q hq).1 hpq
  · exact (hfree p hp q hq).2 hqp

end Rule

namespace Grammar

/-- The starts of the bodies, one list for each rule of the grammar in use. -/
def spokenStarts : List (List String) :=
  [["create project "], ["create file "], ["edit"], ["quit"], spokenRuns, ["open "], ["save"],
   ["log out"]]

theorem startsWith_of_mem {form : List String × Rule}
    (h : form ∈ spokenStarts.zip spoken.rules) : form.2.StartsWith form.1 := by
  simp only [spokenStarts, spoken, List.zip_cons_cons, List.zip_nil_right, List.mem_cons,
    List.not_mem_nil, or_false] at h
  rcases h with rfl | rfl | rfl | rfl | rfl | rfl | rfl | rfl
  · exact Rule.startsWith_argument (by decide +kernel) ⟨'c', by decide⟩
  · exact Rule.startsWith_argument (by decide +kernel) ⟨'c', by decide⟩
  · exact Rule.startsWith_phrase (by decide +kernel)
  · exact Rule.startsWith_phrase (by decide +kernel)
  · exact Rule.startsWith_phrase (by decide +kernel)
  · exact Rule.startsWith_argument (by decide +kernel) ⟨'o', by decide⟩
  · exact Rule.startsWith_phrase (by decide +kernel)
  · exact Rule.startsWith_phrase (by decide +kernel)

/-- **The rules exclude each other**: the starts of the forms do not begin one another. -/
theorem exclusive_rules : spoken.rules.Pairwise Rule.Excludes := by
  have hstarts : spokenStarts = (spokenStarts.zip spoken.rules).map Prod.fst := rfl
  have hrules : spoken.rules = (spokenStarts.zip spoken.rules).map Prod.snd := rfl
  have hfree : spokenStarts.Pairwise fun starts starts' =>
      ∀ p ∈ starts, ∀ q ∈ starts', ¬p.toList <+: q.toList ∧ ¬q.toList <+: p.toList := by
    decide +kernel
  rw [hstarts, List.pairwise_map] at hfree
  rw [hrules, List.pairwise_map]
  exact hfree.imp_of_mem fun hform hform' h =>
    Rule.StartsWith.excludes (startsWith_of_mem hform) (startsWith_of_mem hform') h

/-- **At most one rule matches a body**, if no blank is at its end. -/
theorem countP_rules_le_one {body : Text} (hend : Text.trimEnd body = body) :
    spoken.rules.countP (fun rule => (rule body).isSome) ≤ 1 :=
  countP_isSome_le_one (exclusive_rules.imp fun h _ hc _ hc' => h hend hc hc')

/-! ### The forms -/

/-- The body, which has no blank at its end, asks for the command. -/
inductive Asks (body : Text) : Command → Prop
  | enterEdit (h : Text.sameLetters (Text.trim body) "edit".toList = true) : Asks body .enterEdit
  | exitEdit (h : Text.sameLetters (Text.trim body) "quit".toList = true) : Asks body .exitEdit
  | runCode (word : String) (hword : word ∈ ["run", "ran", "ren"])
      (h : Text.sameLetters (Text.trim body) word.toList = true) : Asks body .runCode
  | saveFile (h : Text.sameLetters (Text.trim body) "save".toList = true) : Asks body .saveFile
  | logOut (h : Text.sameLetters (Text.trim body) "log out".toList = true) : Asks body .logOut
  | createProject (rest : Text) (h : Text.Begins "create project " body rest) :
      Asks body (.createProject (Text.trim rest))
  | createFile (rest : Text) (h : Text.Begins "create file " body rest) :
      Asks body (.createFile (cleanPath (Text.trim rest)))
  | openFile (rest : Text) (h : Text.Begins "open " body rest) :
      Asks body (.openFile (cleanQuery rest))

variable {body rest : Text} {c : Command}

theorem Asks.ne_unrecognized (h : Asks body c) : c ≠ .unrecognized := by
  cases h <;> nofun

/-- Something is left of the rest after the words of a form, however it is cleaned. -/
theorem argument_ne_nil {start : String}
    (hstart : start ∈ ["create project ", "create file ", "open "])
    (h : Text.Begins start body rest) (hend : Text.trimEnd body = body) :
    Text.trim rest ≠ [] ∧ cleanPath (Text.trim rest) ≠ [] ∧ cleanQuery rest ≠ [] := by
  have hspace : ∀ start ∈ ["create project ", "create file ", "open "],
      start.toList.getLast? = some ' ' := by decide +kernel
  obtain ⟨d, hd, hblank⟩ := h.exists_not_isBlank (hspace start hstart) hend
  have htrim : Text.trim rest ≠ [] := fun hnil => by
    rw [Text.trim_eq_nil_iff.1 hnil d hd] at hblank
    cases hblank
  exact ⟨htrim, cleanPath_ne_nil htrim, cleanQuery_ne_nil ⟨d, hd, hblank⟩⟩

theorem asks_of_rule {rule : Rule} (hmem : rule ∈ spoken.rules) (h : rule body = some c) :
    Asks body c := by
  simp only [spoken, List.mem_cons, List.not_mem_nil, or_false] at hmem
  rcases hmem with rfl | rfl | rfl | rfl | rfl | rfl | rfl | rfl
  · obtain ⟨rest, hrest, -, rfl⟩ := Rule.argument_eq_some_iff.1 h
    exact .createProject rest (Text.dropStart?_eq_some_iff.1 hrest)
  · obtain ⟨rest, hrest, -, rfl⟩ := Rule.argument_eq_some_iff.1 h
    exact .createFile rest (Text.dropStart?_eq_some_iff.1 hrest)
  · obtain ⟨⟨p, hp, hsame⟩, rfl⟩ := Rule.phrase_eq_some_iff.1 h
    exact .enterEdit (List.mem_singleton.1 hp ▸ hsame)
  · obtain ⟨⟨p, hp, hsame⟩, rfl⟩ := Rule.phrase_eq_some_iff.1 h
    exact .exitEdit (List.mem_singleton.1 hp ▸ hsame)
  · obtain ⟨⟨p, hp, hsame⟩, rfl⟩ := Rule.phrase_eq_some_iff.1 h
    exact .runCode p hp hsame
  · obtain ⟨rest, hrest, -, rfl⟩ := Rule.argument_eq_some_iff.1 h
    exact .openFile rest (Text.dropStart?_eq_some_iff.1 hrest)
  · obtain ⟨⟨p, hp, hsame⟩, rfl⟩ := Rule.phrase_eq_some_iff.1 h
    exact .saveFile (List.mem_singleton.1 hp ▸ hsame)
  · obtain ⟨⟨p, hp, hsame⟩, rfl⟩ := Rule.phrase_eq_some_iff.1 h
    exact .logOut (List.mem_singleton.1 hp ▸ hsame)

/-- **The rules match the forms.** -/
theorem exists_rule_iff_asks (hend : Text.trimEnd body = body) :
    (∃ rule ∈ spoken.rules, rule body = some c) ↔ Asks body c := by
  have hphrase : ∀ (phrases : List String) {k : Command}, .phrase phrases k ∈ spoken.rules →
      ∀ p ∈ phrases, Text.sameLetters (Text.trim body) p.toList = true →
        ∃ rule ∈ spoken.rules, rule body = some k := fun _ _ hmem p hp h =>
    ⟨_, hmem, Rule.phrase_eq_some_iff.2 ⟨⟨p, hp, h⟩, rfl⟩⟩
  have hargument : ∀ {start : String} (clean : Text → Text) {k : Text → Command} {rest : Text},
      .argument start clean k ∈ spoken.rules → Text.Begins start body rest → clean rest ≠ [] →
        ∃ rule ∈ spoken.rules, rule body = some (k (clean rest)) := fun _ _ _ hmem h hne =>
    ⟨_, hmem, Rule.argument_eq_some_iff.2 ⟨_, Text.dropStart?_eq_some_iff.2 h, hne, rfl⟩⟩
  refine ⟨fun ⟨rule, hmem, h⟩ => asks_of_rule hmem h, fun h => ?_⟩
  cases h with
  | enterEdit h => exact hphrase ["edit"] (by simp [spoken]) _ (List.mem_singleton_self _) h
  | exitEdit h => exact hphrase ["quit"] (by simp [spoken]) _ (List.mem_singleton_self _) h
  | runCode word hword h => exact hphrase spokenRuns (by simp [spoken]) word hword h
  | saveFile h => exact hphrase ["save"] (by simp [spoken]) _ (List.mem_singleton_self _) h
  | logOut h => exact hphrase ["log out"] (by simp [spoken]) _ (List.mem_singleton_self _) h
  | createProject rest h =>
      exact hargument Text.trim (by simp [spoken]) h (argument_ne_nil (by simp) h hend).1
  | createFile rest h =>
      exact hargument (fun path => cleanPath (Text.trim path)) (by simp [spoken]) h
        (argument_ne_nil (by simp) h hend).2.1
  | openFile rest h =>
      exact hargument cleanQuery (by simp [spoken]) h (argument_ne_nil (by simp) h hend).2.2

/-! ### The language of the grammar -/

/-- The phrase asks for the command: it is a wake word, separators and a body that does. -/
def Accepts (t : Text) (c : Command) : Prop :=
  ∃ w s b, Woken t w s b ∧ Asks (Text.trimEnd b) c

/-- The command of a phrase is the one it asks for. -/
theorem parse_eq_iff_accepts (t : Text) (c : Command) :
    (spoken.parse t = c ∧ c ≠ .unrecognized) ↔ Accepts t c := by
  constructor
  · rintro ⟨h, hc⟩
    obtain ⟨-, body, rule, hbody, hmem, hrule⟩ := spoken.exists_rule_of_parse h hc
    obtain ⟨w, s, b, hwoken, rfl⟩ := body?_spoken_iff.1 hbody
    exact ⟨w, s, b, hwoken, asks_of_rule hmem hrule⟩
  · rintro ⟨w, s, b, hwoken, hasks⟩
    have hend := Text.trimEnd_trimEnd b
    have hrule := (findSome?_eq_some_iff_of_countP (countP_rules_le_one hend)).2
      ((exists_rule_iff_asks hend).2 hasks)
    have hbody : spoken.body? t = some (Text.trimEnd b) := body?_spoken_iff.2 ⟨w, s, b, hwoken, rfl⟩
    refine ⟨?_, hasks.ne_unrecognized⟩
    rw [parse, if_pos hwoken.hasWakeWord, parseUngated, hbody]
    show (spoken.rules.findSome? fun rule => rule (Text.trimEnd b)).getD .unrecognized = c
    rw [hrule, Option.getD_some]

/-- **The grammar accepts exactly its language.**  The command of a phrase is a command other than
`unrecognized` exactly if the phrase asks for it: blanks at its start aside, it is a wake word,
separators and a body that has the form of this command when the blanks at its end are left away.
There is one such split at most, the argument that follows the words of a form is never empty, and
every other phrase is `unrecognized`. -/
theorem parse_iff_accepts (t : Text) :
    (∀ c, (spoken.parse t = c ∧ c ≠ .unrecognized) ↔ Accepts t c) ∧
    (∀ w s b w' s' b', Woken t w s b → Woken t w' s' b' → w = w' ∧ s = s' ∧ b = b') ∧
    (∀ w s b start rest, Woken t w s b → start ∈ ["create project ", "create file ", "open "] →
      Text.Begins start (Text.trimEnd b) rest →
        Text.trim rest ≠ [] ∧ cleanPath (Text.trim rest) ≠ [] ∧ cleanQuery rest ≠ []) ∧
    (spoken.parse t = .unrecognized ↔ ∀ c, ¬Accepts t c) := by
  refine ⟨parse_eq_iff_accepts t, fun _ _ _ _ _ _ => Woken.unique,
    fun _ _ b _ _ _ hstart h => argument_ne_nil hstart h (Text.trimEnd_trimEnd b), ?_⟩
  constructor
  · intro hun c h
    obtain ⟨hc, hne⟩ := (parse_eq_iff_accepts t c).2 h
    exact hne (hc ▸ hun)
  · intro hnone
    by_contra hne
    exact hnone _ ((parse_eq_iff_accepts t _).1 ⟨rfl, hne⟩)

/-- A wake word that begins with a shorter one, and a name with blanks around it. -/
theorem parse_iff_accepts_project :
    let t := " Evoked, Create Project  My App ".toList
    let b := "Create Project  My App ".toList
    Woken t "Evoked".toList ", ".toList b ∧
      Text.Begins "create project " (Text.trimEnd b) " My App".toList ∧
      spoken.parse t = .createProject "My App".toList ∧
      (∀ s' b', Woken t "Evoked".toList s' b' → b' = b) ∧
      Text.trim " My App".toList ≠ [] := by
  intro t b
  have hwoken : Woken t "Evoked".toList ", ".toList b :=
    ⟨by decide +kernel, ⟨"evoked", by decide, by decide +kernel⟩, by decide,
      List.all_eq_true.1 (by decide +kernel), by rintro _ ⟨⟩; rfl⟩
  have hbegins : Text.Begins "create project " (Text.trimEnd b) " My App".toList :=
    ⟨"Create Project ".toList, by decide +kernel, by decide +kernel⟩
  have hname : Text.trim " My App".toList = "My App".toList := by decide +kernel
  obtain ⟨hparse, hunique, hargument, -⟩ := parse_iff_accepts t
  refine ⟨hwoken, hbegins, ?_, fun s' b' h => ?_, ?_⟩
  · exact ((hparse (.createProject "My App".toList)).2
      ⟨_, _, b, hwoken, hname ▸ .createProject _ hbegins⟩).1
  · exact (hunique _ _ _ _ _ _ h hwoken).2.2
  · exact (hargument _ _ b "create project " _ hwoken (by simp) hbegins).1

end Grammar
end SpokenEditor
