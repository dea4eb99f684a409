import SpokenEditor.Command.Basic
import SpokenEditor.Service.Error
import SpokenEditor.Session.Watch

/-!
# The login form in memory

The two fields of the form, which of them is selected, whether the form logs in or creates an
account, and the authentication status, which observers watch.

* `submit_eq_ok_iff`: when the form is accepted, and what that leaves.
-/

namespace SpokenEditor

/-- The login form. -/
structure LoginForm where
  login : Text
  password : Text
  /-- Whether the form logs in, or else creates an account. -/
  loginMode : Bool
  selected : Option Field
  /-- Whether the user is logged in. -/
  status : Watch Bool
  deriving DecidableEq, Repr

namespace LoginForm

/-- The form before login. -/
def blank : LoginForm where
  login := []
  password := []
  loginMode := true
  selected := none
  status := .ofValue false

/-- Select a field. -/
def select (field : Field) (f : LoginForm) : LoginForm :=
  { f with selected := some field }

/-- Fill in a field; afterwards none is selected. -/
def fill (field : Field) (value : Text) (f : LoginForm) : LoginForm :=
  match field with
  | .login => { f with login := value, selected := none }
  | .password => { f with password := value, selected := none }

/-- Switch between logging in and creating an account. -/
def setLoginMode (login : Bool) (f : LoginForm) : LoginForm :=
  { f with loginMode := login }

/-- Submit the form. Both fields have to be filled in, and the login of a new account has to
contain a dot. -/
def submit (f : LoginForm) : Except ServiceError LoginForm :=
  if f.login = [] ∨ f.password = [] then
    .error (.rejected "login and password are required".toList)
  else if f.loginMode = false ∧ '.' ∉ f.login then
    .error (.rejected "the login must contain a dot, like 'john.doe'".toList)
  else .ok { f with status := f.status.send true }

/-- Log out. -/
def logOut (f : LoginForm) : LoginForm :=
  { f with status := f.status.send false }

/-- The form is accepted when both fields are filled in and, to create an account, the login
contains a dot; then the user is logged in. -/
theorem submit_eq_ok_iff {f f' : LoginForm} :
    f.submit = .ok f' ↔ f.login ≠ [] ∧ f.password ≠ [] ∧ (f.loginMode = true ∨ '.' ∈ f.login) ∧
      f' = { f with status := f.status.send true } := by
  rw [submit]
  split
  · next h =>
    refine ⟨nofun, fun ⟨hl, hp, _⟩ => ?_⟩
    exact (h.elim hl hp).elim
  · next h =>
    rw [not_or] at h
    split
    · next h' =>
      refine ⟨nofun, fun ⟨_, _, hm, _⟩ => ?_⟩
      rcases hm with hm | hm
      · exact absurd (hm.symm.trans h'.1) nofun
      · exact absurd hm h'.2
    · next h' =>
      have dotted : f.loginMode = true ∨ '.' ∈ f.login := by
        cases hm : f.loginMode with
        | true => exact .inl rfl
        | false => exact .inr (Decidable.byContradiction fun hd => h' ⟨hm, hd⟩)
      exact ⟨fun e => ⟨h.1, h.2, dotted, (Except.ok.inj e).symm⟩, fun ⟨_, _, _, e⟩ => by rw [e]⟩

end LoginForm

end SpokenEditor
