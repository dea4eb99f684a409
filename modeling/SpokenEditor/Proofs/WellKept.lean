import SpokenEditor.Proofs.Effects
import SpokenEditor.Local.Desk
import Mathlib.Data.List.Nodup

/-! # The workspace stays well kept

No file of a workspace is there twice, and the file that is open is one of them.  Calls keep it that
way, and since a session opens what the tree shows and saves what is open, all its calls that open
or save a file succeed.

* `Desk.performs_perform`: what a call may do;
* `Desk.wellKept_perform`, `Desk.wellKept_performAll`: one call, and any run of calls;
* `Dispatcher.wellKept_dispatch`, `Session.wellKept_run`: the same of a session;
* `Dispatcher.servesFiles_dispatch`: what a session opens or saves is there;
* `Session.run_wellKept`: all of it. -/

namespace SpokenEditor
namespace Workspace

/-- No file is there twice, the open file is one of the files, and without a project there is
neither. -/
structure WellKept (w : Workspace) : Prop where
  nodup : w.files.Nodup
  selected : ∀ file, w.selected = some file → file.name ∈ w.files
  closed : w.project = none → w.files = [] ∧ w.selected = none

/-- The workspace as it begins: without a project, or with a project of different files. -/
def Fresh (w : Workspace) : Prop :=
  w = .empty ∨ ∃ project files, files.Nodup ∧ w = .ofFiles project files

variable {w : Workspace}

theorem wellKept_ofFiles (project : Text) {files : List Text} (h : files.Nodup) :
    (ofFiles project files).WellKept :=
  ⟨h, nofun, nofun⟩

theorem Fresh.wellKept (h : w.Fresh) : w.WellKept := by
  obtain rfl | ⟨project, files, hfiles, rfl⟩ := h
  · exact ⟨List.nodup_nil, nofun, fun _ => ⟨rfl, rfl⟩⟩
  · exact wellKept_ofFiles project hfiles

theorem WellKept.addFile {path : Text} (h : w.WellKept) (hproject : w.project ≠ none)
    (hnew : path ∉ w.files) : WellKept { w with files := w.files ++ [path] } where
  nodup := by
    rw [← List.concat_eq_append]
    exact h.nodup.concat hnew
  selected file hfile := List.mem_append_left _ (h.selected file hfile)
  closed hnone := absurd hnone hproject

theorem WellKept.select {file : FileHandle} (h : w.WellKept) (hfile : file.name ∈ w.files) :
    WellKept { w with selected := some file } where
  nodup := h.nodup
  selected other hother := Option.some.inj hother ▸ hfile
  closed hnone := by
    have hnil := (h.closed hnone).1
    rw [hnil] at hfile
    cases hfile

end Workspace

/-- Whether the call works on the workspace. -/
def Call.onWorkspace : Call → Bool
  | createProject _ | createFile _ | openFile _ | saveFile _ => true
  | _ => false

/-- Whether the call works on a file that has to be there. -/
def Call.needsFile : Call → Bool
  | openFile _ | saveFile _ => true
  | _ => false

/-! ### Calls -/

namespace Desk

/-- `Performs d c r`: carrying out the call at the desk may end with `r`. -/
inductive Performs (d : Desk) : Call → Reply × Desk → Prop
  | createProject (name : Text) :
      Performs d (.createProject name) (.done, { d with workspace := .ofFiles name [] })
  | createFile (path : Text) (hproject : d.workspace.project ≠ none)
      (hnew : path ∉ d.workspace.files) :
      Performs d (.createFile path)
        (.done, { d with workspace := { d.workspace with files := d.workspace.files ++ [path] } })
  | openFile (file : FileHandle) (hfile : file.name ∈ d.workspace.files) :
      Performs d (.openFile file)
        (.done, { d with workspace := { d.workspace with selected := some file } })
  | saveFile (file : FileHandle) (hfile : file.name ∈ d.workspace.files) :
      Performs d (.saveFile file) (.done, d)
  | other (c : Call) (form : LoginForm) (hc : c.onWorkspace = false) :
      Performs d c (.done, { d with form })
  | failed (c : Call) (e : ServiceError) : Performs d c (.failed e, d)

/-- The list is complete. -/
theorem performs_perform (d : Desk) (c : Call) : d.Performs c (d.perform c) := by
  cases c with
  | createProject name => exact .createProject name
  | createFile path =>
    rw [perform]
    cases hr : d.workspace.createFile path with
    | ok w =>
      obtain ⟨hproject, hnew, rfl⟩ := Workspace.createFile_eq_ok_iff.1 hr
      exact .createFile path hproject hnew
    | error e => exact .failed _ e
  | openFile file =>
    rw [perform]
    cases hr : d.workspace.openFile file with
    | ok w =>
      obtain ⟨hfile, rfl⟩ := Workspace.openFile_eq_ok_iff.1 hr
      exact .openFile file hfile
    | error e => exact .failed _ e
  | saveFile file =>
    rw [perform, Workspace.saveFile]
    split
    · next hfile => exact .saveFile file hfile
    · exact .failed _ _
  | submitLogin =>
    rw [perform]
    cases d.form.submit with
    | ok form => exact .other _ form rfl
    | error e => exact .failed _ e
  | selectField field => exact .other _ (d.form.select field) rfl
  | fillField field value => exact .other _ (d.form.fill field value) rfl
  | setLoginMode login => exact .other _ (d.form.setLoginMode login) rfl
  | logOut => exact .other _ d.form.logOut rfl
  | run => exact .other _ d.form rfl

/-- A file that is there can be opened and saved. -/
theorem perform_of_mem {d : Desk} {file : FileHandle} (hfile : file.name ∈ d.workspace.files) :
    (d.perform (.openFile file)).1 = .done ∧ (d.perform (.saveFile file)).1 = .done := by
  rw [perform, perform, Workspace.openFile_eq_ok_iff.2 ⟨hfile, rfl⟩, Workspace.saveFile,
    if_pos hfile]
  exact ⟨rfl, rfl⟩

/-- What a call does to the workspace does not depend on the form. -/
theorem withWorkspace_form (d : Desk) (form : LoginForm) (r : Except ServiceError Workspace) :
    (d.withWorkspace r).1 = ({ d with form }.withWorkspace r).1 ∧
      (d.withWorkspace r).2.workspace = ({ d with form }.withWorkspace r).2.workspace := by
  cases r <;> exact ⟨rfl, rfl⟩

theorem workspace_withForm (d : Desk) (r : Except ServiceError LoginForm) :
    (d.withForm r).2.workspace = d.workspace := by
  cases r <;> rfl

/-- A call succeeds, or it fails and changes nothing. -/
theorem perform_done_or_failed (d : Desk) (c : Call) :
    (d.perform c).1 = .done ∨ ∃ e, d.perform c = (.failed e, d) := by
  have hc := d.performs_perform c
  generalize d.perform c = r at hc ⊢
  cases hc with
  | failed c e => exact .inr ⟨e, rfl⟩
  | _ => exact .inl rfl

theorem perform_saveFile (d : Desk) (file : FileHandle) : (d.perform (.saveFile file)).2 = d := by
  have hc := d.performs_perform (.saveFile file)
  generalize d.perform (.saveFile file) = r at hc ⊢
  cases hc with
  | other c form hc => cases hc
  | _ => rfl

theorem perform_createFile {d : Desk} {path : Text}
    (hdone : (d.perform (.createFile path)).1 = .done) :
    (d.perform (.createFile path)).2 =
      { d with workspace := { d.workspace with files := d.workspace.files ++ [path] } } := by
  have hc := d.performs_perform (.createFile path)
  generalize d.perform (.createFile path) = r at hc hdone ⊢
  cases hc with
  | createFile => rfl
  | other c form hc => cases hc
  | failed c e => cases hdone

/-- **A call keeps the workspace well kept.** -/
theorem wellKept_perform {d : Desk} (h : d.workspace.WellKept) (c : Call) :
    (d.perform c).2.workspace.WellKept := by
  have hc := d.performs_perform c
  generalize d.perform c = r at hc ⊢
  cases hc with
  | createProject name => exact Workspace.wellKept_ofFiles name List.nodup_nil
  | createFile path hproject hnew => exact h.addFile hproject hnew
  | openFile file hfile => exact h.select hfile
  | saveFile => exact h
  | other => exact h
  | failed => exact h

/-- The desk after the calls, one after the other. -/
def performAll (d : Desk) (calls : List Call) : Desk :=
  calls.foldl (fun d c => (d.perform c).2) d

/-- **So does a run of calls**, by induction on the run. -/
theorem wellKept_performAll : ∀ (calls : List Call) {d : Desk}, d.workspace.WellKept →
    (d.performAll calls).workspace.WellKept
  | [], _, h => h
  | c :: calls, _, h => wellKept_performAll calls (wellKept_perform h c)

end Desk

/-! ### Services over a workspace -/

section services

variable {β σ : Type} [Services σ] {view : σ → Workspace}

/-- The services show a workspace and work on it as the services in memory do; with calls that are
not on the workspace they may do whatever they like, as long as they leave it alone. -/
structure ShowWorkspace (view : σ → Workspace) : Prop where
  candidates : ∀ s, Services.candidates s = (view s).candidates
  currentFile : ∀ s, Services.currentFile s = (view s).selected
  reply : ∀ c s form, c.onWorkspace = true →
    (Services.perform c s).1 = (Desk.perform c ⟨view s, form⟩).1
  workspace : ∀ c s form,
    view (Services.perform c s).2 = (Desk.perform c ⟨view s, form⟩).2.workspace

/-- The services in memory do. -/
theorem showWorkspace_workspace : ShowWorkspace Desk.workspace where
  candidates _ := rfl
  currentFile _ := rfl
  reply c d form hc := by
    cases c with
    | createProject => rfl
    | createFile => exact (d.withWorkspace_form form _).1
    | openFile => exact (d.withWorkspace_form form _).1
    | saveFile => exact (d.withWorkspace_form form _).1
    | _ => cases hc
  workspace c d form := by
    cases c with
    | createFile => exact (d.withWorkspace_form form _).2
    | openFile => exact (d.withWorkspace_form form _).2
    | saveFile => exact (d.withWorkspace_form form _).2
    | submitLogin => exact (d.workspace_withForm _).trans (Desk.workspace_withForm ⟨_, form⟩ _).symm
    | _ => rfl

namespace Worker

/-- The worker carried out the call with success, which left the worker `next`. -/
def Succeeds (c : Call) (w next : Worker σ) : Prop :=
  w.alive = true ∧ Services.perform c w.services = (.done, next.services)

theorem wellKept_submit (hview : ShowWorkspace view) {w : Worker σ} (h : (view w.services).WellKept)
    (c : Call) : (view (w.submit c).2.services).WellKept := by
  rw [submit]
  split
  · show (view (Services.perform c w.services).2).WellKept
    rw [hview.workspace c w.services .blank]
    exact Desk.wellKept_perform h c
  · exact h

/-- A call on a file that is there succeeds. -/
theorem succeeds_submit (hview : ShowWorkspace view) {w : Worker σ} {c : Call} {file : FileHandle}
    (halive : w.alive = true) (hfile : file.name ∈ (view w.services).files)
    (hc : c = .openFile file ∨ c = .saveFile file) : w.Succeeds c (w.submit c).2 := by
  have hmem := @Desk.perform_of_mem ⟨view w.services, .blank⟩ file hfile
  have hdone : (Services.perform c w.services).1 = .done := by
    obtain rfl | rfl := hc
    · exact (hview.reply _ w.services .blank rfl).trans hmem.1
    · exact (hview.reply _ w.services .blank rfl).trans hmem.2
  refine ⟨halive, Prod.ext hdone ?_⟩
  rw [submit, if_pos halive]

end Worker

namespace Dispatcher

variable [EditingSurface β] {d : Dispatcher β σ}

omit [EditingSurface β] in
theorem wellKept_submit? (hview : ShowWorkspace view) (h : (view d.worker.services).WellKept) :
    ∀ k : Option Call, (view (d.submit? k).worker.services).WellKept
  | none => h
  | some c => Worker.wellKept_submit hview h c

/-- **An outcome keeps the workspace well kept.** -/
theorem wellKept_dispatch (hview : ShowWorkspace view) (h : (view d.worker.services).WellKept)
    (o : Outcome) : (view (d.dispatch o).worker.services).WellKept := by
  cases o with
  | edit => exact h
  | ignored => exact h
  | command c =>
    cases c with
    | enterEdit => exact h
    | exitEdit => exact h
    | unrecognized => exact h
    | openFile q => exact wellKept_submit? hview h (d := d.note [.listCandidates]) _
    | saveFile => exact wellKept_submit? hview h (d := d.note [.currentFile]) _
    | _ => exact Worker.wellKept_submit hview h _

/-- The dispatcher `next` came from `d`, and every call on the way that opens or saves a file was
carried out with success. -/
def ServesFiles (d next : Dispatcher β σ) : Prop :=
  d.AddsOnly (fun e => ∀ c, e = .call c → c.needsFile = true → d.worker.Succeeds c next.worker)
    next

omit [EditingSurface β] in
/-- A lookup finds a file that is there; what is then done with it succeeds. -/
theorem servesFiles_lookup (hview : ShowWorkspace view) {lookup : Effect} {k : Option Call}
    (hlookup : lookup.call? = none)
    (hk : ∀ c ∈ k, ∃ file : FileHandle, file.name ∈ (view d.worker.services).files ∧
      (c = .openFile file ∨ c = .saveFile file)) :
    d.ServesFiles ((d.note [lookup]).submit? k) := by
  have hnone : ∀ c, lookup ≠ .call c := by
    rintro c rfl
    cases hlookup
  cases k with
  | none =>
    refine ⟨[lookup], rfl, fun e he c hc _ => absurd ?_ (hnone c)⟩
    exact (List.mem_singleton.1 he).symm.trans hc
  | some c =>
    refine ⟨lookup :: (d.worker.submit c).1.map .call, List.append_assoc _ _ _, ?_⟩
    rw [List.forall_mem_cons, List.forall_mem_map, Worker.fst_submit]
    refine ⟨fun c hc => absurd hc (hnone c), fun c' hc' _ hcall _ => ?_⟩
    obtain rfl := Effect.call.inj hcall
    split at hc'
    · next halive =>
      obtain rfl := List.mem_singleton.1 hc'
      obtain ⟨file, hfile, hc⟩ := hk _ rfl
      exact Worker.succeeds_submit hview halive hfile hc
    · cases hc'

/-- A file that is found is one of those shown. -/
theorem mem_files_of_resolve {w : Workspace} {query : Text} {threshold : Binary64}
    {found : Candidate} (h : resolve query w.candidates threshold = some found) :
    found.handle.name ∈ w.files := by
  obtain ⟨i, -, hi⟩ := Option.bind_eq_some_iff.1 h
  obtain ⟨path, hpath, rfl⟩ := List.mem_map.1 (List.mem_of_getElem? hi)
  exact hpath

/-- **What a session opens or saves is there.** -/
theorem servesFiles_dispatch (hview : ShowWorkspace view)
    (h : (view d.worker.services).WellKept) (o : Outcome) : d.ServesFiles (d.dispatch o) := by
  have hother : (∀ c, Causes o (.call c) → c.needsFile = false) →
      d.ServesFiles (d.dispatch o) := fun hnone =>
    (trace_dispatch_causes o d).mono fun e he c hc hneeds => by
      subst hc
      exact absurd hneeds (by simp [hnone c he])
  cases o with
  | edit => exact hother fun c hc => by cases hc
  | ignored => exact hother fun c hc => by cases hc
  | command c =>
    cases c with
    | openFile q =>
      refine servesFiles_lookup hview rfl fun c hc => ?_
      obtain ⟨found, hfound, rfl⟩ := Option.map_eq_some_iff.1 hc
      rw [hview.candidates] at hfound
      exact ⟨found.handle, mem_files_of_resolve hfound, .inl rfl⟩
    | saveFile =>
      refine servesFiles_lookup hview rfl fun c hc => ?_
      obtain ⟨file, hfile, rfl⟩ := Option.map_eq_some_iff.1 hc
      rw [hview.currentFile] at hfile
      exact ⟨file, h.selected file hfile, .inr rfl⟩
    | _ =>
      refine hother fun c hc => ?_
      cases hc
      all_goals rfl

end Dispatcher

/-! ### Every run -/

namespace Session

variable [EditingSurface β] {s : Session β σ}

theorem wellKept_step (hview : ShowWorkspace view)
    (h : (view s.dispatcher.worker.services).WellKept) (event : SessionEvent) :
    (view (s.step event).2.dispatcher.worker.services).WellKept := by
  cases event with
  | authenticated => exact h
  | heard t => exact Dispatcher.wellKept_dispatch hview h (s.hear t).1

/-- **A run of events keeps the workspace well kept**, by induction on the run. -/
theorem wellKept_run (hview : ShowWorkspace view) : ∀ (events : List SessionEvent)
    {s : Session β σ}, (view s.dispatcher.worker.services).WellKept →
      (view (s.run events).dispatcher.worker.services).WellKept
  | [], _, h => h
  | event :: events, _, h => wellKept_run hview events (wellKept_step hview h event)

theorem servesFiles_step (hview : ShowWorkspace view)
    (h : (view s.dispatcher.worker.services).WellKept) (event : SessionEvent) :
    s.dispatcher.ServesFiles (s.step event).2.dispatcher := by
  cases event with
  | authenticated => exact .refl _ _
  | heard t => exact Dispatcher.servesFiles_dispatch hview h (s.hear t).1

/-- **The workspace stays well kept, and what a session opens or saves is there.**  The workspace
has no project or a project of different files to begin with.  After any run of calls at a desk with
it, it is well kept; the next call succeeds, or it fails and changes nothing; saving never changes
anything, and a file that is created stands at the end.  After any run of a session over services
that show it, with every call carried out before the next event and whatever their login form and
their runner do, it is well kept, and every call of the next event that opens or saves a file
succeeds. -/
theorem run_wellKept (hview : ShowWorkspace view) (surface : β) {services : σ}
    (hfresh : (view services).Fresh) (threshold : Binary64) (form : LoginForm) (calls : List Call)
    (call : Call) (events : List SessionEvent) (event : SessionEvent) :
    let d := Desk.performAll ⟨view services, form⟩ calls
    let s := (Session.start (.start surface services threshold)).run events
    let next := (s.step event).2
    d.workspace.WellKept ∧
      ((d.perform call).1 = .done ∨ ∃ e, d.perform call = (.failed e, d)) ∧
      (∀ file, (d.perform (.saveFile file)).2 = d) ∧
      (∀ path, (d.perform (.createFile path)).1 = .done → (d.perform (.createFile path)).2 =
        { d with workspace := { d.workspace with files := d.workspace.files ++ [path] } }) ∧
      (view s.dispatcher.worker.services).WellKept ∧
      s.dispatcher.ServesFiles next.dispatcher := by
  intro d s next
  have hd : d.workspace.WellKept := Desk.wellKept_performAll calls hfresh.wellKept
  have hs : (view s.dispatcher.worker.services).WellKept :=
    wellKept_run hview events hfresh.wellKept
  exact ⟨hd, d.perform_done_or_failed call, d.perform_saveFile,
    fun path => Desk.perform_createFile, hs, servesFiles_step hview hs event⟩

end Session
end services

/-- A file that is there cannot be created again, another one can; a file is opened by a name that
only sounds like it, and then it is saved. -/
theorem Session.run_wellKept_demo :
    let services : Desk := ⟨.empty, .blank⟩
    let d := services.performAll [.createProject "Demo".toList, .createFile "main.py".toList]
    let events : List SessionEvent := [.authenticated true,
      .heard "evoke create project Demo".toList, .heard "evoke create file main.py".toList,
      .heard "evoke create file utils.py".toList]
    let s := (Session.start (.start (Buffer.ofText []) services defaultThreshold)).run events
    let opened := (s.step (.heard "evoke open main pay".toList)).2
    let saved := (opened.step (.heard "evoke save".toList)).2
    (∃ e, d.perform (.createFile "main.py".toList) = (.failed e, d)) ∧
      (d.perform (.createFile "utils.py".toList)).2.workspace.files =
        ["main.py".toList, "utils.py".toList] ∧
      s.dispatcher.worker.Succeeds (.openFile ⟨"main.py".toList⟩) opened.dispatcher.worker ∧
      opened.dispatcher.worker.Succeeds (.saveFile ⟨"main.py".toList⟩) saved.dispatcher.worker := by
  intro services d events s opened saved
  have hfresh : services.workspace.Fresh := .inl rfl
  have hrun := Session.run_wellKept showWorkspace_workspace (Buffer.ofText []) hfresh
    defaultThreshold .blank [.createProject "Demo".toList, .createFile "main.py".toList]
    (.createFile "main.py".toList)
  obtain ⟨-, hagain, -, hcreate, -, es, hes, hopen⟩ :=
    hrun events (.heard "evoke open main pay".toList)
  obtain ⟨-, -, -, -, -, es', hes', hsave⟩ :=
    hrun (events ++ [.heard "evoke open main pay".toList]) (.heard "evoke save".toList)
  have hopened : es = [.listCandidates, .call (.openFile ⟨"main.py".toList⟩)] :=
    List.append_cancel_left (hes.symm.trans (by decide +kernel))
  have hsaved : es' = [.currentFile, .call (.saveFile ⟨"main.py".toList⟩)] :=
    List.append_cancel_left (hes'.symm.trans (by decide +kernel))
  refine ⟨hagain.resolve_left (by decide +kernel), ?_, hopen _ ?_ _ rfl rfl, hsave _ ?_ _ rfl rfl⟩
  · rw [hcreate "utils.py".toList (by decide +kernel)]
    decide +kernel
  · rw [hopened]
    exact List.mem_cons_of_mem _ List.mem_cons_self
  · rw [hsaved]
    exact List.mem_cons_of_mem _ List.mem_cons_self

end SpokenEditor
