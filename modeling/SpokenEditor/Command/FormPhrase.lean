import SpokenEditor.Command.Basic

/-!
# Phrases of the login form

The few phrases that work before login and need no wake word, and the clean-up of a spoken login
name, of which ASCII letters, digits and dots are kept, in lowercase, and every `dot` becomes `.`.
-/

namespace SpokenEditor

/-- The phrases of the login form with their commands. -/
def formPhrases : List (String × Command) :=
  [("login", .selectField .login),
   ("password", .selectField .password),
   ("create account", .switchForm false),
   ("create mode", .switchForm false),
   ("back to login", .switchForm true),
   ("login mode", .switchForm true),
   ("submit", .submitForm),
   ("log in", .submitForm)]

/-- The command of a phrase, which has to be trimmed and lowercase. -/
def formCommand? (phrase : Text) : Option Command :=
  (formPhrases.find? fun p => p.1.toList == phrase).map Prod.snd

/-- A command that is found is listed with its phrase. -/
theorem mem_formPhrases {phrase : Text} {c : Command} (h : formCommand? phrase = some c) :
    ∃ s, (s, c) ∈ formPhrases ∧ s.toList = phrase := by
  obtain ⟨⟨s, c'⟩, hp, rfl⟩ := Option.map_eq_some_iff.1 h
  exact ⟨s, List.mem_of_find?_eq_some hp, by simpa using List.find?_some hp⟩

/-- A phrase selects a field, or it is a command on the form as a whole. -/
theorem formCommand?_cases {phrase : Text} {c : Command} (h : formCommand? phrase = some c) :
    (∃ f, c = .selectField f) ∨ (∃ login, c = .switchForm login) ∨ c = .submitForm := by
  obtain ⟨s, hs, -⟩ := mem_formPhrases h
  simp only [formPhrases, List.mem_cons, Prod.mk.injEq, List.not_mem_nil, or_false] at hs
  rcases hs with ⟨-, rfl⟩ | ⟨-, rfl⟩ | ⟨-, rfl⟩ | ⟨-, rfl⟩ | ⟨-, rfl⟩ | ⟨-, rfl⟩ | ⟨-, rfl⟩ | ⟨-, rfl⟩
  all_goals simp

/-! ### Login names -/

/-- The characters of a login name. -/
def isLoginChar (c : Char) : Bool :=
  c.isAlphanum || c == '.'

/-- Each `dot`, found from the left and not overlapping, becomes a dot. -/
def spokenDots : Text → Text
  | 'd' :: 'o' :: 't' :: t => '.' :: spokenDots t
  | c :: t => c :: spokenDots t
  | [] => []

/-- The login name that was spoken. -/
def cleanLogin (raw : Text) : Text :=
  spokenDots ((raw.filter isLoginChar).map Char.toLower)

end SpokenEditor
