import SpokenEditor.Command.Basic
import SpokenEditor.Text.Ascii
import SpokenEditor.Text.Blank

/-!
# The command grammar

A command is a wake word, a separator of spaces and commas, and a body. A gate looks at the letters
of the phrase alone; then the wake word is cut off and the rules are tried on the body in order.

A grammar is a value made of wake words and rules, so that one can say what does not depend on
their order; `Grammar.spoken` is the one in use.

* `Grammar.bodyAfter?_eq_some_iff`: what it means for a body to follow a wake word.
-/

namespace SpokenEditor

/-- A form of command: the command that a body stands for, if it has that form. -/
abbrev Rule := Text → Option Command

namespace Rule

/-- The body is one of the phrases, up to case and blanks around it. -/
def phrase (phrases : List String) (command : Command) : Rule := fun body =>
  if phrases.any fun p => Text.sameLetters (Text.trim body) p.toList then some command else none

/-- The body starts with the words, and what follows them is not empty once it is cleaned. -/
def argument (start : String) (clean : Text → Text) (command : Text → Command) : Rule :=
  fun body => do
    let rest ← Text.dropStart? start.toList body
    let value := clean rest
    if value.isEmpty then none else some (command value)

theorem phrase_eq_some_iff {phrases : List String} {command c : Command} {body : Text} :
    phrase phrases command body = some c ↔
      (∃ p ∈ phrases, Text.sameLetters (Text.trim body) p.toList = true) ∧ command = c := by
  unfold phrase
  split
  · next h => simpa using fun _ => List.any_eq_true.1 h
  · next h => simp only [List.any_eq_true] at h; simp [h]

theorem argument_eq_some_iff {start : String} {clean : Text → Text} {command : Text → Command}
    {body : Text} {c : Command} :
    argument start clean command body = some c ↔
      ∃ rest, Text.dropStart? start.toList body = some rest ∧ clean rest ≠ [] ∧
        command (clean rest) = c := by
  unfold argument
  cases Text.dropStart? start.toList body with
  | none => simp
  | some rest => simp

end Rule

/-! ### Arguments -/

/-- The first space becomes an underscore. -/
def underscoreFirstSpace : Text → Text
  | [] => []
  | c :: t => if c = ' ' then '_' :: t else c :: underscoreFirstSpace t

/-- A spoken path: each `dot` after a space becomes a dot together with the space, and then the
first space that is left becomes an underscore. -/
def cleanPath (path : Text) : Text :=
  underscoreFirstSpace (['.'].intercalate (Text.pieces " dot".toList (by decide) path))

/-- The endings that are heard for the file extension `py`. -/
def misheardEndings : List String :=
  ["pay", "pai"]

/-- A spoken file name: without blanks, and with a misheard `py` at its end put right. -/
def cleanQuery (query : Text) : Text :=
  let name := Text.squeeze query
  match misheardEndings.findSome? fun ending => Text.dropEnd? ending.toList name with
  | some stem => stem ++ "py".toList
  | none => name

/-! ### Grammars -/

/-- Wake words and forms of command, in the order in which they are tried. -/
structure Grammar where
  wakeWords : List Text
  rules : List Rule

namespace Grammar

variable (g : Grammar)

/-- What may stand between the wake word and the body. -/
def isSeparator (c : Char) : Bool :=
  c == ' ' || c == ','

/-- The gate: whether the ASCII letters of the phrase begin with a wake word. -/
def hasWakeWord (t : Text) : Bool :=
  let letters := (t.filter Char.isAlpha).map Char.toLower
  g.wakeWords.any fun w => w.isPrefixOf letters

/-- The body after one wake word, which a space or a comma must follow. -/
def bodyAfter? (wakeWord t : Text) : Option Text := do
  let rest ← Text.dropStart? wakeWord t
  let body := rest.dropWhile isSeparator
  if body.length < rest.length then some (Text.trimEnd body) else none

/-- The body of a phrase. -/
def body? (t : Text) : Option Text :=
  g.wakeWords.findSome? fun w => bodyAfter? w (Text.trimStart t)

/-- The command of the first rule that matches the body. -/
def command (body : Text) : Command :=
  (g.rules.findSome? fun rule => rule body).getD .unrecognized

/-- The command of a phrase, the gate aside. -/
def parseUngated (t : Text) : Command :=
  match g.body? t with
  | some body => g.command body
  | none => .unrecognized

/-- The command of a phrase. -/
def parse (t : Text) : Command :=
  if g.hasWakeWord t then g.parseUngated t else .unrecognized

/-- A phrase with a command other than `unrecognized` passes the gate, and a rule matches its body. -/
theorem exists_rule_of_parse {t : Text} {c : Command} (h : g.parse t = c) (hc : c ≠ .unrecognized) :
    g.hasWakeWord t = true ∧
      ∃ body rule, g.body? t = some body ∧ rule ∈ g.rules ∧ rule body = some c := by
  unfold parse at h
  split at h
  · next hw =>
    refine ⟨hw, ?_⟩
    unfold parseUngated at h
    split at h
    · next body hb =>
      unfold command at h
      cases hr : g.rules.findSome? fun rule => rule body with
      | none => exact absurd (hr ▸ h).symm hc
      | some d =>
        obtain rfl : d = c := by simpa [hr] using h
        obtain ⟨rule, hm, hd⟩ := List.exists_of_findSome?_eq_some hr
        exact ⟨body, rule, hb, hm, hd⟩
    · exact absurd h.symm hc
  · exact absurd h.symm hc

/-- A wake word is followed by a body exactly when a separator stands between the two. -/
theorem bodyAfter?_eq_some_iff {w t b : Text} :
    bodyAfter? w t = some b ↔ ∃ rest, Text.dropStart? w t = some rest ∧
      (rest.dropWhile isSeparator).length < rest.length ∧
        Text.trimEnd (rest.dropWhile isSeparator) = b := by
  unfold bodyAfter?
  cases h : Text.dropStart? w t with
  | none => simp
  | some rest => simp

/-- The words that wake the application, as they are heard. -/
def spokenWakeWords : List String :=
  ["ivok", "evok", "evoke", "evoked", "ebook"]

/-- The words heard for `run`. -/
def spokenRuns : List String :=
  ["run", "ran", "ren"]

/-- The grammar in use. -/
def spoken : Grammar where
  wakeWords := spokenWakeWords.map String.toList
  rules :=
    [.argument "create project " Text.trim .createProject,
     .argument "create file " (fun path => cleanPath (Text.trim path)) .createFile,
     .phrase ["edit"] .enterEdit,
     .phrase ["quit"] .exitEdit,
     .phrase spokenRuns .runCode,
     .argument "open " cleanQuery .openFile,
     .phrase ["save"] .saveFile,
     .phrase ["log out"] .logOut]

/-- No phrase of the grammar in use is a command of the login form. -/
theorem isForm_parse (t : Text) : (spoken.parse t).isForm = false := by
  by_cases hc : spoken.parse t = .unrecognized
  · rw [hc]
    rfl
  have byPhrase : ∀ {ps k b c}, Rule.phrase ps k b = some c → k.isForm = false → c.isForm = false :=
    fun h hk => (Rule.phrase_eq_some_iff.1 h).2 ▸ hk
  have byArgument : ∀ {w f k b c}, Rule.argument w f k b = some c → (∀ v, (k v).isForm = false) →
      c.isForm = false := by
    intro w f k b c h hk
    obtain ⟨rest, -, -, rfl⟩ := Rule.argument_eq_some_iff.1 h
    exact hk _
  obtain ⟨-, body, rule, -, hm, hr⟩ := spoken.exists_rule_of_parse rfl hc
  simp only [spoken, List.mem_cons, List.not_mem_nil, or_false] at hm
  rcases hm with rfl | rfl | rfl | rfl | rfl | rfl | rfl | rfl
  · exact byArgument hr fun _ => rfl
  · exact byArgument hr fun _ => rfl
  · exact byPhrase hr rfl
  · exact byPhrase hr rfl
  · exact byPhrase hr rfl
  · exact byArgument hr fun _ => rfl
  · exact byPhrase hr rfl
  · exact byPhrase hr rfl

end Grammar

end SpokenEditor