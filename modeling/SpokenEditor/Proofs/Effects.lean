import SpokenEditor.Session.Dispatcher

/-! # What an outcome does to the collaborators

`Causes o e` says that carrying out the outcome `o` may have the effect `e`: an edit works on the
surface, a command of the login form or of the services is one call, and only `openFile` and
`saveFile` look files up first.

* `trace_dispatch_causes`: carrying out an outcome adds only effects that it causes;
* `surface_dispatch_command`: a command leaves the surface alone;
* `Causes.isForm_eq`: commands of the login form, and no others, lead to calls on the form. -/

namespace SpokenEditor

/-- The outcome may have the effect. -/
inductive Causes : Outcome → Effect → Prop
  | cursor (e : Edit) : Causes (.edit e) .cursor
  | applyEdit (e : Edit) (p : Position) : Causes (.edit e) (.applyEdit p e)
  | focus (e : Edit) : Causes (.edit e) .focus
  | selectField (f : Field) : Causes (.command (.selectField f)) (.call (.selectField f))
  | fillField (f : Field) (v : Text) : Causes (.command (.fillField f v)) (.call (.fillField f v))
  | switchForm (login : Bool) : Causes (.command (.switchForm login)) (.call (.setLoginMode login))
  | submitForm : Causes (.command .submitForm) (.call .submitLogin)
  | createProject (n : Text) : Causes (.command (.createProject n)) (.call (.createProject n))
  | createFile (p : Text) : Causes (.command (.createFile p)) (.call (.createFile p))
  | runCode : Causes (.command .runCode) (.call .run)
  | listCandidates (q : Text) : Causes (.command (.openFile q)) .listCandidates
  | openFile (q : Text) (file : FileHandle) : Causes (.command (.openFile q)) (.call (.openFile file))
  | currentFile : Causes (.command .saveFile) .currentFile
  | saveFile (file : FileHandle) : Causes (.command .saveFile) (.call (.saveFile file))
  | logOut : Causes (.command .logOut) (.call .logOut)

/-- A command of the login form, and no other, leads to calls on the form. -/
theorem Causes.isForm_eq {c : Command} {k : Call} (h : Causes (.command c) (.call k)) :
    k.isForm = c.isForm := by
  cases h <;> rfl

/-- A command of the login form does nothing but call. -/
theorem Causes.eq_call {c : Command} {e : Effect} (h : Causes (.command c) e)
    (hc : c.isForm = true) : ∃ k, e = .call k := by
  cases h with
  | listCandidates => cases hc
  | currentFile => cases hc
  | _ => exact ⟨_, rfl⟩

namespace Dispatcher

variable {β σ : Type} [EditingSurface β] [Services σ]

/-- The dispatcher `d'` came from `d` with effects that satisfy `P`. -/
def AddsOnly (P : Effect → Prop) (d d' : Dispatcher β σ) : Prop :=
  ∃ es, d'.trace = d.trace ++ es ∧ ∀ e ∈ es, P e

omit [EditingSurface β] [Services σ] in
theorem AddsOnly.refl (P : Effect → Prop) (d : Dispatcher β σ) : AddsOnly P d d :=
  ⟨[], by simp⟩

omit [EditingSurface β] [Services σ] in
theorem AddsOnly.mono {P Q : Effect → Prop} {d d' : Dispatcher β σ} (h : AddsOnly P d d')
    (hPQ : ∀ e, P e → Q e) : AddsOnly Q d d' := by
  obtain ⟨es, he, hP⟩ := h
  exact ⟨es, he, fun e hm => hPQ e (hP e hm)⟩

omit [EditingSurface β] in
/-- A call that is submitted is the only effect, if it reaches the services. -/
theorem addsOnly_submit {P : Effect → Prop} {k : Call} (d : Dispatcher β σ) (hk : P (.call k)) :
    AddsOnly P d (d.submit k) := by
  refine ⟨(d.worker.submit k).1.map .call, rfl, ?_⟩
  rw [Worker.fst_submit]
  split
  · simpa using hk
  · simp

omit [EditingSurface β] in
/-- A lookup and the call it leads to, if any, are the only effects. -/
theorem addsOnly_submit? {P : Effect → Prop} {lookup : Effect} {k : Option Call}
    (d : Dispatcher β σ) (hl : P lookup) (hk : ∀ c, k = some c → P (.call c)) :
    AddsOnly P d ((d.note [lookup]).submit? k) := by
  cases k with
  | none => exact ⟨[lookup], rfl, by simpa using hl⟩
  | some c =>
      obtain ⟨es, he, hes⟩ := addsOnly_submit (d.note [lookup]) (hk c rfl)
      refine ⟨lookup :: es, ?_, by simpa using ⟨hl, hes⟩⟩
      rw [submit?, he, trace_note, List.append_assoc]
      rfl

/-- **Carrying out an outcome adds only effects that it causes.** -/
theorem trace_dispatch_causes (o : Outcome) (d : Dispatcher β σ) :
    AddsOnly (Causes o) d (d.dispatch o) := by
  cases o with
  | ignored => exact .refl _ d
  | edit e =>
      refine ⟨_, rfl, ?_⟩
      simp only [List.forall_mem_cons, List.not_mem_nil, false_imp_iff, implies_true, and_true]
      exact ⟨.cursor e, .applyEdit e _, .focus e⟩
  | command c =>
      cases c with
      | selectField f => exact addsOnly_submit d (.selectField f)
      | fillField f v => exact addsOnly_submit d (.fillField f v)
      | switchForm login => exact addsOnly_submit d (.switchForm login)
      | submitForm => exact addsOnly_submit d .submitForm
      | createProject n => exact addsOnly_submit d (.createProject n)
      | createFile p => exact addsOnly_submit d (.createFile p)
      | runCode => exact addsOnly_submit d .runCode
      | logOut => exact addsOnly_submit d .logOut
      | openFile q =>
          refine addsOnly_submit? d (.listCandidates q) fun k hk => ?_
          obtain ⟨file, -, rfl⟩ := Option.map_eq_some_iff.1 hk
          exact .openFile q file.handle
      | saveFile =>
          refine addsOnly_submit? d .currentFile fun k hk => ?_
          obtain ⟨file, -, rfl⟩ := Option.map_eq_some_iff.1 hk
          exact .saveFile file
      | enterEdit => exact .refl _ d
      | exitEdit => exact .refl _ d
      | unrecognized => exact .refl _ d

omit [EditingSurface β] in
theorem surface_submit? (k : Option Call) (d : Dispatcher β σ) :
    (d.submit? k).surface = d.surface := by
  cases k <;> rfl

/-- A command leaves the surface alone. -/
theorem surface_dispatch_command (c : Command) (d : Dispatcher β σ) :
    (d.dispatch (.command c)).surface = d.surface := by
  cases c with
  | openFile q => exact surface_submit? _ _
  | saveFile => exact surface_submit? _ _
  | _ => rfl

end Dispatcher
end SpokenEditor
