import SpokenEditor.Proofs.CommandForms

/-! # The order of the tables

A wake word may begin another one, and the rules are tried one after the other, behind a gate that
reads the letters of the phrase.  None of this is to be seen from outside: of the wake words at most
one is followed by a body, of the rules at most one matches that body, and what has a body passes the
gate.  So the tables may stand in any order, and the gate may as well be left away.

* `countP_rules_le_one`, `countP_wakeWords_le_one`: at most one entry of either table answers;
* `body?_eq_of_perm`, `command_eq_of_perm`: so the order of a table does not matter;
* `hasWakeWord_of_body?`: a phrase with a body passes the gate;
* `parse_anyOrder`: the three facts together. -/

namespace SpokenEditor
namespace Grammar

variable {g : Grammar} {t body : Text}

/-! ### At most one entry answers -/

/-- Two wake words that are followed by a body in one phrase are the same. -/
theorem wakeWord_unique {v v' : String} {b b' : Text} (hv : v ∈ spokenWakeWords)
    (hv' : v' ∈ spokenWakeWords) (h : bodyAfter? v.toList (Text.trimStart t) = some b)
    (h' : bodyAfter? v'.toList (Text.trimStart t) = some b') : v = v' := by
  obtain ⟨w, s, r, hsplit, hw, hne, hs, hr, -⟩ := bodyAfter?_eq_some_iff_split.1 h
  obtain ⟨w', s', r', hsplit', hw', hne', hs', hr', -⟩ := bodyAfter?_eq_some_iff_split.1 h'
  have hwoken : Woken t w s r := ⟨hsplit, ⟨v, hv, hw⟩, hne, hs, hr⟩
  have hwoken' : Woken t w' s' r' := ⟨hsplit', ⟨v', hv', hw'⟩, hne', hs', hr'⟩
  obtain ⟨rfl, -, -⟩ := hwoken.unique hwoken'
  have hletters : v.toList = v'.toList :=
    (map_toLower_of_wakeWord hv hw).symm.trans (map_toLower_of_wakeWord hv' hw')
  exact String.toList_inj.1 hletters

/-- **At most one wake word is followed by a body**, although one begins another. -/
theorem countP_wakeWords_le_one (t : Text) :
    spoken.wakeWords.countP (fun w => (bodyAfter? w (Text.trimStart t)).isSome) ≤ 1 := by
  have hdistinct : spokenWakeWords.Nodup := by decide
  refine countP_isSome_le_one ?_
  show (spokenWakeWords.map String.toList).Pairwise _
  rw [List.pairwise_map]
  exact hdistinct.imp_of_mem fun hv hv' hne _ h _ h' => hne (wakeWord_unique hv hv' h h')

/-- A phrase with a body passes the gate. -/
theorem hasWakeWord_of_body? (h : spoken.body? t = some body) : spoken.hasWakeWord t = true := by
  obtain ⟨w, s, b, hwoken, -⟩ := body?_spoken_iff.1 h
  exact hwoken.hasWakeWord

/-- **At most one rule matches the body of a phrase.** -/
theorem countP_rules_le_one_of_body? (h : spoken.body? t = some body) :
    spoken.rules.countP (fun rule => (rule body).isSome) ≤ 1 := by
  obtain ⟨w, s, b, -, rfl⟩ := body?_spoken_iff.1 h
  exact countP_rules_le_one (Text.trimEnd_trimEnd b)

/-! ### Any order -/

theorem hasWakeWord_eq_of_perm (hwords : g.wakeWords.Perm spoken.wakeWords) (t : Text) :
    g.hasWakeWord t = spoken.hasWakeWord t :=
  hwords.any_eq

theorem body?_eq_of_perm (hwords : g.wakeWords.Perm spoken.wakeWords) (t : Text) :
    g.body? t = spoken.body? t :=
  (findSome?_eq_of_perm hwords.symm (countP_wakeWords_le_one t)).symm

theorem command_eq_of_perm (hrules : g.rules.Perm spoken.rules) (h : spoken.body? t = some body) :
    g.command body = spoken.command body := by
  have hfirst := findSome?_eq_of_perm hrules.symm (countP_rules_le_one_of_body? h)
  rw [command, command, hfirst]

/-- Without the gate, and in any order, a phrase has the same command. -/
theorem parseUngated_eq_of_perm (hwords : g.wakeWords.Perm spoken.wakeWords)
    (hrules : g.rules.Perm spoken.rules) (t : Text) : g.parseUngated t = spoken.parse t := by
  rw [parse, parseUngated, parseUngated, body?_eq_of_perm hwords]
  cases hbody : spoken.body? t with
  | none => simp
  | some body =>
    rw [if_pos (hasWakeWord_of_body? hbody)]
    exact command_eq_of_perm hrules hbody

/-- **Neither the order of the tables nor the gate can be told from the commands.**  At most one wake
word is followed by a body, at most one rule matches that body, and the phrase passes the gate.  So
with its wake words and its rules in any order, and with or without the gate, the grammar finds the
same command in every phrase. -/
theorem parse_anyOrder (t : Text) :
    spoken.wakeWords.countP (fun w => (bodyAfter? w (Text.trimStart t)).isSome) ≤ 1 ∧
    (∀ body, spoken.body? t = some body →
      spoken.rules.countP (fun rule => (rule body).isSome) ≤ 1 ∧ spoken.hasWakeWord t = true) ∧
    ∀ g : Grammar, g.wakeWords.Perm spoken.wakeWords → g.rules.Perm spoken.rules →
      g.parse t = spoken.parse t ∧ g.parseUngated t = spoken.parse t := by
  refine ⟨countP_wakeWords_le_one t, fun body h => ?_, fun g hwords hrules => ?_⟩
  · exact ⟨countP_rules_le_one_of_body? h, hasWakeWord_of_body? h⟩
  · have hungated := parseUngated_eq_of_perm hwords hrules t
    refine ⟨?_, hungated⟩
    rw [parse, hasWakeWord_eq_of_perm hwords, hungated, parse]
    split <;> rfl

/-- The longest wake word first and the rules backwards. -/
theorem parse_anyOrder_reversed :
    let t := "Evoked, Log Out".toList
    let g : Grammar := ⟨spoken.wakeWords.reverse, spoken.rules.reverse⟩
    spoken.body? t = some "Log Out".toList ∧
      spoken.rules.countP (fun rule => (rule "Log Out".toList).isSome) ≤ 1 ∧
      g.wakeWords.Perm spoken.wakeWords ∧ g.rules.Perm spoken.rules ∧
      spoken.parse t = .logOut ∧ g.parse t = .logOut ∧ g.parseUngated t = .logOut := by
  intro t g
  obtain ⟨-, hone, horder⟩ := parse_anyOrder t
  have hbody : spoken.body? t = some "Log Out".toList := by decide +kernel
  have hparse : spoken.parse t = .logOut := by decide +kernel
  have hwords : g.wakeWords.Perm spoken.wakeWords := List.reverse_perm _
  have hrules : g.rules.Perm spoken.rules := List.reverse_perm _
  obtain ⟨hgated, hungated⟩ := horder g hwords hrules
  exact ⟨hbody, (hone _ hbody).1, hwords, hrules, hparse, hgated.trans hparse,
    hungated.trans hparse⟩

end Grammar
end SpokenEditor
