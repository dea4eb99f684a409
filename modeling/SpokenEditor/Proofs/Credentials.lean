import SpokenEditor.Local.Desk
import SpokenEditor.Proofs.Halves
import SpokenEditor.Proofs.LoginNames

/-! # No way around the login form

A session over the login form in memory, to which the form's own status is reported after every
transcript.  What a step does to the form is a function of its outcome alone, `LoginForm.after`;
what outcomes there are in each half of a session is known; so the form keeps what it requires of a
user for as long as the user is logged in.

* `Dispatcher.form_dispatch`: an outcome does to the form what `LoginForm.after` says;
* `LoginForm.Sound`: what always holds of the form, and `LoginForm.sound_after`: one step keeps it;
* `LocalSession.secure_say`, `LocalSession.secure_sayAll`: so do a transcript and a run of them;
* `LocalSession.sayAll_secure`: what this means for a session from its beginning. -/

namespace SpokenEditor

/-! ### What an outcome does to the form -/

namespace LoginForm

/-- The form once it is submitted: as it was, if it is refused. -/
def submitted (f : LoginForm) : LoginForm :=
  match f.submit with
  | .ok f' => f'
  | .error _ => f

/-- The form once an outcome is carried out. -/
def after (f : LoginForm) : Outcome → LoginForm
  | .command (.selectField field) => f.select field
  | .command (.fillField field value) => f.fill field value
  | .command (.switchForm login) => f.setLoginMode login
  | .command .submitForm => f.submitted
  | .command .logOut => f.logOut
  | _ => f

/-- A submitted form is as it was, or it is accepted. -/
theorem submitted_cases (f : LoginForm) :
    f.submitted = f ∨ f.login ≠ [] ∧ f.password ≠ [] ∧ (f.loginMode = true ∨ '.' ∈ f.login) ∧
      f.submitted = { f with status := f.status.send true } := by
  unfold submitted
  cases h : f.submit with
  | error e => exact .inl rfl
  | ok f' => exact .inr (submit_eq_ok_iff.1 h)

end LoginForm

namespace Desk

theorem form_withWorkspace (d : Desk) (r : Except ServiceError Workspace) :
    (d.withWorkspace r).2.form = d.form := by
  cases r <;> rfl

theorem form_withForm_submit (d : Desk) : (d.withForm d.form.submit).2.form = d.form.submitted := by
  unfold LoginForm.submitted
  cases d.form.submit <;> rfl

/-- The services in memory never break down. -/
theorem fst_perform_ne_broken (c : Call) (d : Desk) : (d.perform c).1 ≠ .broken := by
  have hworkspace : ∀ r, (d.withWorkspace r).1 ≠ .broken := fun r => by cases r <;> nofun
  have hform : ∀ r, (d.withForm r).1 ≠ .broken := fun r => by cases r <;> nofun
  cases c with
  | run => nofun
  | createProject name => exact hworkspace _
  | createFile path => exact hworkspace _
  | openFile file => exact hworkspace _
  | saveFile file => exact hworkspace _
  | selectField field => exact hform _
  | fillField field value => exact hform _
  | setLoginMode login => exact hform _
  | submitLogin => exact hform _
  | logOut => exact hform _

end Desk

namespace Dispatcher

variable {β : Type} {d : Dispatcher β Desk}

/-- A worker that is alive carries out the call and stays alive. -/
theorem worker_submit (h : d.worker.alive = true) (c : Call) :
    (d.submit c).worker = ⟨(d.worker.services.perform c).2, true⟩ := by
  have hworker : (d.submit c).worker = (d.worker.submit c).2 := rfl
  have hreply : ((d.worker.services.perform c).1 != .broken) = true :=
    bne_iff_ne.2 (Desk.fst_perform_ne_broken c _)
  rw [hworker, Worker.submit, if_pos h]
  exact congrArg (Worker.mk _) hreply

/-- A call that leaves the form alone, if there is one. -/
theorem form_submit? (h : d.worker.alive = true) {k : Option Call}
    (hk : ∀ c ∈ k, ∀ desk : Desk, (desk.perform c).2.form = desk.form) :
    (d.submit? k).worker.alive = true ∧
      (d.submit? k).worker.services.form = d.worker.services.form := by
  cases k with
  | none => exact ⟨h, rfl⟩
  | some c =>
      rw [submit?, worker_submit h]
      exact ⟨rfl, hk c rfl _⟩

variable [EditingSurface β]

/-- **An outcome does to the form what its kind says**, and the worker stays alive. -/
theorem form_dispatch (h : d.worker.alive = true) (o : Outcome) :
    (d.dispatch o).worker.alive = true ∧
      (d.dispatch o).worker.services.form = d.worker.services.form.after o := by
  have hsubmit : ∀ c, (d.submit c).worker.alive = true ∧
      (d.submit c).worker.services.form = (d.worker.services.perform c).2.form := fun c => by
    rw [worker_submit h]
    exact ⟨rfl, rfl⟩
  cases o with
  | ignored => exact ⟨h, rfl⟩
  | edit e => exact ⟨h, rfl⟩
  | command c =>
      cases c with
      | selectField field => exact hsubmit (.selectField field)
      | fillField field value => exact hsubmit (.fillField field value)
      | switchForm login => exact hsubmit (.setLoginMode login)
      | submitForm =>
          obtain ⟨halive, hform⟩ := hsubmit .submitLogin
          exact ⟨halive, hform.trans (Desk.form_withForm_submit _)⟩
      | createProject name => exact hsubmit (.createProject name)
      | createFile path =>
          obtain ⟨halive, hform⟩ := hsubmit (.createFile path)
          exact ⟨halive, hform.trans (Desk.form_withWorkspace _ _)⟩
      | runCode => exact hsubmit .run
      | openFile query =>
          refine form_submit? (d := d.note [.listCandidates]) h fun c hc desk => ?_
          obtain ⟨file, -, rfl⟩ := Option.map_eq_some_iff.1 hc
          exact Desk.form_withWorkspace _ _
      | saveFile =>
          refine form_submit? (d := d.note [.currentFile]) h fun c hc desk => ?_
          obtain ⟨file, -, rfl⟩ := Option.map_eq_some_iff.1 hc
          exact Desk.form_withWorkspace _ _
      | logOut => exact hsubmit .logOut
      | enterEdit => exact ⟨h, rfl⟩
      | exitEdit => exact ⟨h, rfl⟩
      | unrecognized => exact ⟨h, rfl⟩

end Dispatcher

/-! ### The form at every step -/

namespace LoginForm

/-- What always holds of the form: the login is a login name, the password has no blank at its ends,
and a user is logged in only with both fields filled in and, to create an account, a login with a
dot. -/
structure Sound (f : LoginForm) : Prop where
  login : IsLoginName f.login
  passwordHead : ∀ c ∈ f.password.head?, Text.isBlank c = false
  passwordLast : ∀ c ∈ f.password.getLast?, Text.isBlank c = false
  accepted : f.status.value = true →
    f.login ≠ [] ∧ f.password ≠ [] ∧ (f.loginMode = false → '.' ∈ f.login)

theorem sound_blank : blank.Sound where
  login := ⟨nofun, by decide⟩
  passwordHead := nofun
  passwordLast := nofun
  accepted := nofun

variable {f : LoginForm} {t : Text} {mode next : Mode} {o : Outcome}

theorem Sound.submitted (h : f.Sound) : f.submitted.Sound := by
  obtain heq | ⟨hlogin, hpassword, hdot, heq⟩ := f.submitted_cases
  · rwa [heq]
  · rw [heq]
    refine ⟨h.login, h.passwordHead, h.passwordLast, fun _ => ⟨hlogin, hpassword, fun hm => ?_⟩⟩
    exact hdot.resolve_left (Bool.eq_false_iff.1 hm)

/-- **One step keeps what holds of the form**, when the mode knows its status. -/
theorem sound_after (h : Mode.Answers (.ofText t) mode o next)
    (hmode : mode.isAuthenticated = f.status.value) (hf : f.Sound) : (f.after o).Sound := by
  -- before login the status is off, so nothing has to be shown of the fields that change
  have hout : mode.isAuthenticated = false → f.status.value = true → False := fun hm hs => by
    rw [hmode, hs] at hm
    cases hm
  cases h with
  | blank => exact hf
  | unheard => exact hf
  | select field => exact ⟨hf.login, hf.passwordHead, hf.passwordLast, hf.accepted⟩
  | form c _ hc =>
      obtain ⟨field, rfl⟩ | ⟨login, rfl⟩ | rfl := formCommand?_cases hc
      · exact ⟨hf.login, hf.passwordHead, hf.passwordLast, hf.accepted⟩
      · exact ⟨hf.login, hf.passwordHead, hf.passwordLast, fun hs => (hout rfl hs).elim⟩
      · exact hf.submitted
  | fill field =>
      cases field with
      | login =>
          exact ⟨isLoginName_cleanLogin _, hf.passwordHead, hf.passwordLast,
            fun hs => (hout rfl hs).elim⟩
      | password =>
          exact ⟨hf.login, Text.isBlank_head_trim t, Text.isBlank_getLast_trim t,
            fun hs => (hout rfl hs).elim⟩
  | unrecognized => exact hf
  | enter => exact hf
  | spoken c _ hc =>
      have hform : c.isForm = false := hc ▸ Grammar.isForm_parse _
      cases c with
      | selectField => cases hform
      | fillField => cases hform
      | switchForm => cases hform
      | submitForm => cases hform
      | logOut => exact ⟨hf.login, hf.passwordHead, hf.passwordLast, nofun⟩
      | _ => exact hf
  | exit => exact hf
  | edit => exact hf
  | dropped => exact hf

/-- The status changes when the form is submitted or the user logs out, and never otherwise. -/
theorem status_after_cases (f : LoginForm) (o : Outcome) :
    (f.after o).status.value = f.status.value ∨
      (o = .command .submitForm ∧ (f.after o).status.value = true) ∨
      (o = .command .logOut ∧ (f.after o).status.value = false) := by
  cases o with
  | edit => exact .inl rfl
  | ignored => exact .inl rfl
  | command c =>
      cases c with
      | submitForm =>
          obtain heq | ⟨-, -, -, heq⟩ := f.submitted_cases
          · exact .inl (congrArg (fun g : LoginForm => g.status.value) heq)
          · exact .inr (.inl ⟨rfl, congrArg (fun g : LoginForm => g.status.value) heq⟩)
      | logOut => exact .inr (.inr ⟨rfl, rfl⟩)
      | fillField field => cases field <;> exact .inl rfl
      | _ => exact .inl rfl

/-- The password is empty until it is filled in. -/
theorem password_after (h : Mode.Answers (.ofText t) mode o next) :
    (f.after o).password = [] ↔
      f.password = [] ∧ ∀ value, o ≠ .command (.fillField .password value) := by
  have hother : (f.after o).password = f.password →
      (∀ value, o ≠ .command (.fillField .password value)) →
      ((f.after o).password = [] ↔
        f.password = [] ∧ ∀ value, o ≠ .command (.fillField .password value)) :=
    fun heq hne => by rw [heq, and_iff_left hne]
  cases o with
  | edit => exact hother rfl nofun
  | ignored => exact hother rfl nofun
  | command c =>
      cases c with
      | submitForm =>
          refine hother ?_ nofun
          show f.submitted.password = f.password
          obtain heq | ⟨-, -, -, heq⟩ := f.submitted_cases <;> rw [heq]
      | fillField field value =>
          cases field with
          | login => exact hother rfl nofun
          | password =>
              obtain ⟨hu, -, rfl⟩ := h.eq_capture
              have hne : Text.trim t ≠ [] := fun hnil => by simp [Utterance.isEmpty, hnil] at hu
              exact ⟨fun hnil => absurd hnil hne, fun hnone => absurd rfl (hnone.2 _)⟩
      | _ => exact hother rfl nofun

end LoginForm

/-! ### The session -/

namespace LocalSession

variable {β : Type} [EditingSurface β] {s : Session β Desk}

/-- The outcomes of the transcripts, one after the other. -/
def outcomes (s : Session β Desk) : List Text → List Outcome
  | [] => []
  | t :: ts => (s.hear t).1 :: outcomes (say s t) ts

/-- What always holds of the session: its worker is alive, its mode knows the status of the form,
and the form is sound. -/
structure Secure (s : Session β Desk) : Prop where
  alive : s.dispatcher.worker.alive = true
  synced : s.engine.mode.isAuthenticated = (desk s).form.status.value
  sound : (desk s).form.Sound

omit [EditingSurface β] in
theorem secure_start (surface : β) (workspace : Workspace) (threshold : Binary64) :
    Secure (Session.start (.start surface ⟨workspace, .blank⟩ threshold)) :=
  ⟨rfl, rfl, LoginForm.sound_blank⟩

/-- The form after a transcript. -/
theorem form_say (h : Secure s) (t : Text) :
    (desk (say s t)).form = (desk s).form.after (s.hear t).1 :=
  (Dispatcher.form_dispatch h.alive (s.hear t).1).2

/-- **A transcript keeps the session secure.** -/
theorem secure_say (h : Secure s) (t : Text) : Secure (say s t) where
  alive := (Dispatcher.form_dispatch h.alive (s.hear t).1).1
  synced := Engine.isAuthenticated_setAuthenticated _ _
  sound := by
    rw [form_say h]
    exact LoginForm.sound_after (s.answers_hear t) h.synced h.sound

/-- **So does a run of transcripts**, by induction on the run. -/
theorem secure_sayAll : ∀ (ts : List Text) {s : Session β Desk}, Secure s → Secure (sayAll s ts)
  | [], _, h => h
  | t :: ts, _, h => secure_sayAll ts (secure_say h t)

/-- The password is empty as long as no outcome filled it in. -/
theorem password_sayAll : ∀ (ts : List Text) {s : Session β Desk}, Secure s →
    ((desk (sayAll s ts)).form.password = [] ↔ (desk s).form.password = [] ∧
      ∀ value, .command (.fillField .password value) ∉ outcomes s ts)
  | [], s, _ => by simp [sayAll, outcomes]
  | t :: ts, s, h => by
      have ih := password_sayAll ts (secure_say h t)
      rw [form_say h, LoginForm.password_after (s.answers_hear t)] at ih
      have hsay : sayAll s (t :: ts) = sayAll (say s t) ts := rfl
      rw [hsay, ih, outcomes, and_assoc, ← forall_and]
      simp only [List.mem_cons, not_or, ne_comm, ne_eq]

/-- **There is no way around the login form.**  A session over any surface, with the form and a
workspace in memory, hears any transcripts, and after each of them the status of the form is
reported to it.  Then the mode is one of those after login exactly if the status is on; the status
is on only if both fields are filled in and, to create an account, the login contains a dot; in the
next step it is turned on only by submitting the form and off only by logging out.  The login is
always a login name, and the password, empty exactly if it was never filled in, has no blank at
its ends. -/
theorem sayAll_secure (surface : β) (workspace : Workspace) (threshold : Binary64)
    (transcripts : List Text) (transcript : Text) :
    let start := Session.start (.start surface ⟨workspace, .blank⟩ threshold)
    let s := sayAll start transcripts
    let form := (desk s).form
    let next := (desk (say s transcript)).form
    let outcome := (s.hear transcript).1
    (s.engine.mode.isAuthenticated = true ↔ form.status.value = true) ∧
      (form.status.value = true →
        form.login ≠ [] ∧ form.password ≠ [] ∧ (form.loginMode = false → '.' ∈ form.login)) ∧
      (form.status.value = false → next.status.value = true → outcome = .command .submitForm) ∧
      (form.status.value = true → next.status.value = false → outcome = .command .logOut) ∧
      (∀ c ∈ form.login, c.isLower = true ∨ c.isDigit = true ∨ c = '.') ∧
      ¬"dot".toList <:+: form.login ∧
      (form.password = [] ↔
        ∀ value, .command (.fillField .password value) ∉ outcomes start transcripts) ∧
      (∀ c ∈ form.password.head?, Text.isBlank c = false) ∧
      ∀ c ∈ form.password.getLast?, Text.isBlank c = false := by
  intro start s form next outcome
  have hstart : Secure start := secure_start surface workspace threshold
  have hs : Secure s := secure_sayAll transcripts hstart
  have hnext : next = form.after outcome := form_say hs transcript
  have hchange := form.status_after_cases outcome
  rw [← hnext] at hchange
  refine ⟨by rw [hs.synced], hs.sound.accepted, fun hoff hon => ?_, fun hon hoff => ?_,
    hs.sound.login.chars, hs.sound.login.noDot, ?_, hs.sound.passwordHead, hs.sound.passwordLast⟩
  · rw [hoff, hon] at hchange
    simpa using hchange
  · rw [hoff, hon] at hchange
    simpa using hchange
  · rw [password_sayAll transcripts hstart]
    exact and_iff_right rfl

/-- What a user says to create an account, apart from the submission. -/
def accountPhrases : List Text :=
  ["create account".toList, "login".toList, "john dot doe".toList, "password".toList,
   " Pass Word ".toList]

/-- An account is created, and its user logs out again. -/
theorem sayAll_secure_account :
    let start := Session.start (.start (Buffer.ofText []) ⟨.empty, .blank⟩ defaultThreshold)
    let filled := sayAll start accountPhrases
    let logged := sayAll start (accountPhrases ++ ["submit".toList])
    (desk filled).form.status.value = false ∧
      (desk (say filled "submit".toList)).form.status.value = true ∧
      (filled.hear "submit".toList).1 = .command .submitForm ∧
      (desk logged).form.status.value = true ∧
      (desk (say logged "Evoke, log out".toList)).form.status.value = false ∧
      (logged.hear "Evoke, log out".toList).1 = .command .logOut ∧
      (desk logged).form.loginMode = false ∧ '.' ∈ (desk logged).form.login ∧
      'P' ∈ (desk logged).form.password.head? ∧ Text.isBlank 'P' = false := by
  obtain ⟨-, -, hsubmit, -⟩ :=
    sayAll_secure (Buffer.ofText []) .empty defaultThreshold accountPhrases "submit".toList
  obtain ⟨-, haccepted, -, hlogOut, -, -, -, hhead, -⟩ :=
    sayAll_secure (Buffer.ofText []) .empty defaultThreshold
      (accountPhrases ++ ["submit".toList]) "Evoke, log out".toList
  refine ⟨?off, ?on, hsubmit ?off ?on, ?entered, ?left, hlogOut ?entered ?left, ?mode,
    (haccepted ?entered).2.2 ?mode, ?head, hhead 'P' ?head⟩
  all_goals decide +kernel

end LocalSession
end SpokenEditor
