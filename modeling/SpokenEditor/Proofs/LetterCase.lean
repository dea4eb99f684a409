import SpokenEditor.Dictation.Interpret
import SpokenEditor.Command.FormPhrase
import SpokenEditor.Command.Grammar
import SpokenEditor.Proofs.Letters

/-! # The case of letters

`lowerLetters` puts the ASCII letters of a text in lowercase and changes nothing else, so two texts
are equal up to case exactly if it makes them equal.  Every operation on a phrase either does not
see the difference or passes it on to its result, and this is one equation for each operation.

* `lowerChar_toLower`, `lowercase_lowerLetters`: full lowercasing does not see it, a final sigma
  included;
* `dropStart?_lowerLetters`, `pieces_lowerLetters`: what is found stays in its place;
* `interpret_lowerLetters`, `cleanLogin_lowerLetters`: dictation and login names do not see it;
* `Grammar.parse_lowerLetters`: a command passes it on to its argument. -/

namespace SpokenEditor
namespace Text

variable {s t : Text} {p : Char → Bool}

/-- The text with its ASCII letters in lowercase. -/
def lowerLetters (t : Text) : Text :=
  t.map Char.toLower

theorem sameLetters_iff_lowerLetters :
    sameLetters s t = true ↔ lowerLetters s = lowerLetters t :=
  sameLetters_iff

@[simp] theorem lowerLetters_lowerLetters (t : Text) :
    lowerLetters (lowerLetters t) = lowerLetters t := by
  simp [lowerLetters]

@[simp] theorem lowerLetters_eq_nil_iff : lowerLetters t = [] ↔ t = [] :=
  List.map_eq_nil_iff

theorem sameLetters_lowerLetters (s t : Text) :
    sameLetters (lowerLetters s) t = sameLetters s t := by
  rw [Bool.eq_iff_iff, sameLetters_iff_lowerLetters, sameLetters_iff_lowerLetters,
    lowerLetters_lowerLetters]

/-- Only letters come from letters. -/
theorem toLower_eq_iff {c d : Char} (hd : d.isAlpha = false) : c.toLower = d ↔ c = d := by
  by_cases hu : c.isUpper = true
  · have hc : c.isAlpha = true := by rw [Char.isAlpha, hu, Bool.true_or]
    constructor
    · rintro rfl
      rw [c.isAlpha_toLower_eq_isAlpha, hc] at hd
      cases hd
    · rintro rfl
      rw [hc] at hd
      cases hd
  · rw [Char.toLower_eq_of_not_isUpper hu]

theorem lowerLetters_append (s t : Text) :
    lowerLetters (s ++ t) = lowerLetters s ++ lowerLetters t :=
  List.map_append

theorem intercalate_lowerLetters {sep : Text} (hsep : lowerLetters sep = sep) (ts : List Text) :
    sep.intercalate (ts.map lowerLetters) = lowerLetters (sep.intercalate ts) := by
  induction ts with
  | nil => rfl
  | cons t ts ih =>
      cases ts with
      | nil => simp [List.intercalate_singleton]
      | cons u us =>
          rw [List.map_cons, List.map_cons, List.intercalate_cons_cons, ← List.map_cons, ih,
            List.intercalate_cons_cons, lowerLetters_append, lowerLetters_append, hsep]

/-! ### Runs and blanks -/

theorem dropWhile_lowerLetters (hp : ∀ c, p c.toLower = p c) (t : Text) :
    (lowerLetters t).dropWhile p = lowerLetters (t.dropWhile p) := by
  have hcomp : p ∘ Char.toLower = p := funext hp
  rw [lowerLetters, List.dropWhile_map, hcomp]
  rfl

theorem filter_lowerLetters (hp : ∀ c, p c.toLower = p c) (t : Text) :
    (lowerLetters t).filter p = lowerLetters (t.filter p) := by
  have hcomp : p ∘ Char.toLower = p := funext hp
  rw [lowerLetters, List.filter_map, hcomp]
  rfl

theorem reverse_lowerLetters (t : Text) :
    (lowerLetters t).reverse = lowerLetters t.reverse :=
  List.map_reverse.symm

theorem trimStart_lowerLetters (t : Text) :
    trimStart (lowerLetters t) = lowerLetters (trimStart t) :=
  dropWhile_lowerLetters isBlank_toLower t

theorem trimEnd_lowerLetters (t : Text) :
    trimEnd (lowerLetters t) = lowerLetters (trimEnd t) := by
  unfold trimEnd dropEndWhile
  rw [reverse_lowerLetters, dropWhile_lowerLetters isBlank_toLower, reverse_lowerLetters]

theorem trim_lowerLetters (t : Text) : trim (lowerLetters t) = lowerLetters (trim t) := by
  unfold trim
  rw [trimStart_lowerLetters, trimEnd_lowerLetters]

theorem squeeze_lowerLetters (t : Text) : squeeze (lowerLetters t) = lowerLetters (squeeze t) := by
  unfold squeeze
  apply filter_lowerLetters
  intro c
  rw [isBlank_toLower]

/-! ### Patterns -/

/-- A pattern at the start is found in either case. -/
theorem dropStart?_lowerLetters : ∀ p t : Text,
    dropStart? p (lowerLetters t) = (dropStart? p t).map lowerLetters
  | [], _ => rfl
  | _ :: _, [] => rfl
  | d :: p, c :: t => by
      have ih := dropStart?_lowerLetters p t
      simp only [lowerLetters, List.map_cons, dropStart?, Char.toLower_toLower_eq_toLower] at ih ⊢
      split
      · exact ih
      · rfl

theorem dropEnd?_lowerLetters (p t : Text) :
    dropEnd? p (lowerLetters t) = (dropEnd? p t).map lowerLetters := by
  unfold dropEnd?
  rw [reverse_lowerLetters, dropStart?_lowerLetters, Option.map_map, Option.map_map]
  congr 1
  funext r
  exact reverse_lowerLetters r

/-- A pattern is found in the same place. -/
theorem cutFirst?_lowerLetters (p : Text) : ∀ t : Text,
    cutFirst? p (lowerLetters t) =
      (cutFirst? p t).map fun (a, b) => (lowerLetters a, lowerLetters b)
  | [] => by cases p <;> rfl
  | c :: t => by
      have h := dropStart?_lowerLetters p (c :: t)
      have ih := cutFirst?_lowerLetters p t
      simp only [lowerLetters, List.map_cons] at h ih
      simp only [lowerLetters, List.map_cons, cutFirst?, h, ih]
      cases dropStart? p (c :: t) with
      | some r => rfl
      | none =>
          simp only [Option.map_none, Option.map_map]
          rfl

theorem pieces_lowerLetters {p : Text} (hp : p ≠ []) (t : Text) :
    pieces p hp (lowerLetters t) = (pieces p hp t).map lowerLetters := by
  have h := cutFirst?_lowerLetters p t
  cases hcut : cutFirst? p t with
  | none =>
      rw [hcut] at h
      rw [pieces_of_cutFirst?_none hp h, pieces_of_cutFirst?_none hp hcut]
      rfl
  | some ab =>
      obtain ⟨a, b⟩ := ab
      have hlt : b.length < t.length := length_lt_of_cutFirst? hp hcut
      rw [hcut] at h
      rw [pieces_of_cutFirst?_some hp h, pieces_of_cutFirst?_some hp hcut, pieces_lowerLetters hp b]
      rfl
termination_by t.length

/-! ### Lowering -/

theorem exists_capital {c : Char} (h : c.isUpper = true) : ∃ n < 26, c = Char.ofNat (65 + n) := by
  have hn : c.val.toNat = c.toNat := rfl
  simp only [Char.isUpper, decide_eq_true_eq, ge_iff_le, UInt32.le_iff_toNat_le, hn] at h
  change 65 ≤ c.toNat ∧ c.toNat ≤ 90 at h
  refine ⟨c.toNat - 65, by omega, ?_⟩
  rw [show 65 + (c.toNat - 65) = c.toNat by omega, Char.ofNat_toNat]

/-- A letter has one lowercase form in either case, and it is cased in either case. -/
theorem lower_toLower (c : Char) :
    lowerChar c.toLower = lowerChar c ∧ isCased c.toLower = isCased c ∧
      isCaseIgnorable c.toLower = isCaseIgnorable c := by
  by_cases hu : c.isUpper = true
  · have htable : ∀ n < 26, lowerChar (Char.ofNat (65 + n)).toLower = lowerChar (Char.ofNat (65 + n)) ∧
        isCased (Char.ofNat (65 + n)).toLower = isCased (Char.ofNat (65 + n)) ∧
        isCaseIgnorable (Char.ofNat (65 + n)).toLower = isCaseIgnorable (Char.ofNat (65 + n)) := by
      decide +kernel
    obtain ⟨n, hn, rfl⟩ := exists_capital hu
    exact htable n hn
  · rw [Char.toLower_eq_of_not_isUpper hu]
    exact ⟨rfl, rfl, rfl⟩

theorem casedAhead_lowerLetters (t : Text) : casedAhead (lowerLetters t) = casedAhead t := by
  unfold casedAhead
  rw [dropWhile_lowerLetters fun c => (lower_toLower c).2.2]
  cases t.dropWhile isCaseIgnorable with
  | nil => rfl
  | cons c r => exact (lower_toLower c).2.1

/-- **Full lowercasing does not see the case of ASCII letters**, nor does its rule for the final
sigma: a letter is cased in either case. -/
theorem lowerFrom_lowerLetters : ∀ (b : Bool) (t : Text), lowerFrom b (lowerLetters t) = lowerFrom b t
  | _, [] => rfl
  | b, c :: t => by
      obtain ⟨hlower, hcased, hignorable⟩ := lower_toLower c
      have hsigma : c.toLower = 'Σ' ↔ c = 'Σ' := toLower_eq_iff (by decide)
      have ih := lowerFrom_lowerLetters (if isCaseIgnorable c then b else isCased c) t
      have hahead := casedAhead_lowerLetters t
      unfold lowerLetters at ih hahead
      simp only [lowerLetters, List.map_cons, lowerFrom.eq_2, hlower, hcased, hignorable, hsigma,
        hahead, ih]

theorem lowercase_lowerLetters (t : Text) : lowercase (lowerLetters t) = lowercase t :=
  lowerFrom_lowerLetters false t

end Text

/-! ### Dictation and login names -/

/-- Dictation does not see the case of letters. -/
theorem interpret_lowerLetters (t : Text) : interpret (Text.lowerLetters t) = interpret t := by
  have hphrase : deletePhrase (Text.lowerLetters t) = deletePhrase t := by
    unfold deletePhrase
    rw [Text.trim_lowerLetters, Text.lowercase_lowerLetters]
  have hwords : dictatedWords (Text.lowerLetters t) = dictatedWords t := by
    unfold dictatedWords
    rw [Text.lowercase_lowerLetters]
  unfold interpret deleteEdit? isDeletePhrase dictate dictatedText
  rw [hphrase, hwords]

theorem isLoginChar_toLower (c : Char) : isLoginChar c.toLower = isLoginChar c := by
  by_cases hu : c.isUpper = true
  · have hc : c.isAlpha = true := by rw [Char.isAlpha, hu, Bool.true_or]
    have hlow : c.toLower.isAlpha = true := by rw [c.isAlpha_toLower_eq_isAlpha, hc]
    simp [isLoginChar, Char.isAlphanum, hc, hlow]
  · rw [Char.toLower_eq_of_not_isUpper hu]

/-- Nor does the clean-up of a login. -/
theorem cleanLogin_lowerLetters (t : Text) : cleanLogin (Text.lowerLetters t) = cleanLogin t := by
  unfold cleanLogin
  rw [Text.filter_lowerLetters isLoginChar_toLower]
  exact congrArg spokenDots (Text.lowerLetters_lowerLetters _)

/-! ### Commands -/

/-- The command with the ASCII letters of its argument in lowercase, unless it is the content of the
login, which is in lowercase anyway. -/
def Command.lowerLetters : Command → Command
  | fillField .password value => fillField .password (Text.lowerLetters value)
  | createProject name => createProject (Text.lowerLetters name)
  | createFile path => createFile (Text.lowerLetters path)
  | openFile query => openFile (Text.lowerLetters query)
  | c => c

namespace Grammar

theorem underscoreFirstSpace_lowerLetters (t : Text) :
    underscoreFirstSpace (Text.lowerLetters t) = Text.lowerLetters (underscoreFirstSpace t) := by
  induction t with
  | nil => rfl
  | cons c t ih =>
      have hspace : c.toLower = ' ' ↔ c = ' ' := Text.toLower_eq_iff (by decide)
      simp only [Text.lowerLetters, List.map_cons, underscoreFirstSpace, hspace] at ih ⊢
      split
      · rfl
      · rw [ih]
        rfl

theorem cleanPath_lowerLetters (t : Text) :
    cleanPath (Text.lowerLetters t) = Text.lowerLetters (cleanPath t) := by
  have hdot : Text.lowerLetters ['.'] = ['.'] := rfl
  unfold cleanPath
  rw [Text.pieces_lowerLetters, Text.intercalate_lowerLetters hdot, underscoreFirstSpace_lowerLetters]

theorem cleanQuery_lowerLetters (t : Text) :
    cleanQuery (Text.lowerLetters t) = Text.lowerLetters (cleanQuery t) := by
  have hpy : Text.lowerLetters "py".toList = "py".toList := rfl
  have hending : ∀ name : Text,
      (misheardEndings.findSome? fun ending =>
        Text.dropEnd? ending.toList (Text.lowerLetters name)) =
      (misheardEndings.findSome? fun ending => Text.dropEnd? ending.toList name).map
        Text.lowerLetters := by
    intro name
    rw [List.map_findSome?]
    simp only [Text.dropEnd?_lowerLetters]
    rfl
  unfold cleanQuery
  rw [Text.squeeze_lowerLetters]
  dsimp only
  rw [hending]
  cases misheardEndings.findSome? fun ending => Text.dropEnd? ending.toList (Text.squeeze t) with
  | none => rfl
  | some stem =>
      show Text.lowerLetters stem ++ "py".toList = Text.lowerLetters (stem ++ "py".toList)
      rw [Text.lowerLetters_append, hpy]

end Grammar

/-! ### The grammar -/

namespace Rule

/-- The rule passes the case of letters on to the argument of its command. -/
def KeepsCase (rule : Rule) : Prop :=
  ∀ body, rule (Text.lowerLetters body) = (rule body).map Command.lowerLetters

theorem keepsCase_phrase {phrases : List String} {command : Command}
    (hc : command.lowerLetters = command) : KeepsCase (phrase phrases command) := by
  intro body
  unfold phrase
  simp only [Text.trim_lowerLetters, Text.sameLetters_lowerLetters]
  split
  · rw [Option.map_some, hc]
  · rfl

theorem keepsCase_argument {start : String} {clean : Text → Text} {command : Text → Command}
    (hclean : ∀ t, clean (Text.lowerLetters t) = Text.lowerLetters (clean t))
    (hc : ∀ t, command (Text.lowerLetters t) = (command t).lowerLetters) :
    KeepsCase (argument start clean command) := by
  intro body
  unfold argument
  rw [Text.dropStart?_lowerLetters]
  cases Text.dropStart? start.toList body with
  | none => rfl
  | some rest =>
      by_cases hnil : clean rest = []
      · simp [hclean, hnil]
      · simp [hclean, hnil, hc]

end Rule

namespace Grammar

theorem keepsCase_of_mem {rule : Rule} (h : rule ∈ spoken.rules) : rule.KeepsCase := by
  simp only [spoken, List.mem_cons, List.not_mem_nil, or_false] at h
  rcases h with rfl | rfl | rfl | rfl | rfl | rfl | rfl | rfl
  · exact Rule.keepsCase_argument Text.trim_lowerLetters fun _ => rfl
  · apply Rule.keepsCase_argument _ fun _ => rfl
    intro t
    rw [Text.trim_lowerLetters, cleanPath_lowerLetters]
  · exact Rule.keepsCase_phrase rfl
  · exact Rule.keepsCase_phrase rfl
  · exact Rule.keepsCase_phrase rfl
  · exact Rule.keepsCase_argument cleanQuery_lowerLetters fun _ => rfl
  · exact Rule.keepsCase_phrase rfl
  · exact Rule.keepsCase_phrase rfl

theorem command_lowerLetters (body : Text) :
    spoken.command (Text.lowerLetters body) = (spoken.command body).lowerLetters := by
  have hfind : ∀ rules : List Rule, (∀ rule ∈ rules, rule.KeepsCase) →
      (rules.findSome? fun rule => rule (Text.lowerLetters body)) =
        (rules.findSome? fun rule => rule body).map Command.lowerLetters := by
    intro rules hrules
    induction rules with
    | nil => rfl
    | cons rule rules ih =>
        rw [List.forall_mem_cons] at hrules
        rw [List.findSome?_cons, List.findSome?_cons, hrules.1 body, ih hrules.2]
        cases rule body <;> rfl
  unfold command
  rw [hfind spoken.rules fun _ => keepsCase_of_mem]
  cases spoken.rules.findSome? fun rule => rule body <;> rfl

variable (g : Grammar)

/-- The gate reads letters in lowercase. -/
theorem hasWakeWord_lowerLetters (t : Text) :
    g.hasWakeWord (Text.lowerLetters t) = g.hasWakeWord t := by
  unfold hasWakeWord
  rw [Text.filter_lowerLetters Char.isAlpha_toLower_eq_isAlpha]
  dsimp only
  rw [show (Text.lowerLetters (t.filter Char.isAlpha)).map Char.toLower =
    Text.lowerLetters (t.filter Char.isAlpha) from Text.lowerLetters_lowerLetters _]
  rfl

theorem isSeparator_toLower (c : Char) : isSeparator c.toLower = isSeparator c := by
  have hspace : c.toLower = ' ' ↔ c = ' ' := Text.toLower_eq_iff (by decide)
  have hcomma : c.toLower = ',' ↔ c = ',' := Text.toLower_eq_iff (by decide)
  rw [Bool.eq_iff_iff]
  simp [isSeparator, hspace, hcomma]

theorem bodyAfter?_lowerLetters (w t : Text) :
    bodyAfter? w (Text.lowerLetters t) = (bodyAfter? w t).map Text.lowerLetters := by
  have hlength : ∀ t, (Text.lowerLetters t).length = t.length := fun t => List.length_map _
  unfold bodyAfter?
  rw [Text.dropStart?_lowerLetters]
  cases Text.dropStart? w t with
  | none => rfl
  | some rest =>
      simp only [Option.map_some, Option.bind_eq_bind, Option.bind_some,
        Text.dropWhile_lowerLetters isSeparator_toLower, hlength, Text.trimEnd_lowerLetters]
      split <;> rfl

theorem body?_lowerLetters (t : Text) :
    g.body? (Text.lowerLetters t) = (g.body? t).map Text.lowerLetters := by
  unfold body?
  rw [Text.trimStart_lowerLetters, List.map_findSome?]
  simp only [bodyAfter?_lowerLetters]
  rfl

/-- **A command passes the case of letters on to its argument** and does not see it otherwise. -/
theorem parse_lowerLetters (t : Text) :
    spoken.parse (Text.lowerLetters t) = (spoken.parse t).lowerLetters := by
  unfold parse parseUngated
  rw [hasWakeWord_lowerLetters, body?_lowerLetters]
  cases spoken.body? t with
  | none => split <;> rfl
  | some body =>
      rw [Option.map_some]
      dsimp only
      rw [command_lowerLetters]
      split <;> rfl

end Grammar
end SpokenEditor
