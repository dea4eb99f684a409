import SpokenEditor.Proofs.Effects
import SpokenEditor.Service.Fixed
import Mathlib.Data.List.Basic

/-! # Failures of services

What happens at once when an outcome is carried out (the edit, the lookup of files) and the call it
leads to are decided before any service is called.  So a failure can only show in which calls are
reached, and there only as a cut.

* **The two parts of an outcome.**  `dispatch_eq`: an outcome is carried out at once
  (`Outcome.atOnce`), then its call (`Outcome.call?`) is submitted, which changes nothing of what
  was done at once (`inline_submit?`).
* **The ledger.**  `Ledger` compares the calls submitted with those reached and those that still
  wait.  It is kept when a call is submitted (`Ledger.submit`) and when one is made
  (`Ledger.perform`); once nothing waits, the calls reached are those submitted, cut after the first
  in which a service breaks down (`Ledger.eq_upTo`).
* **Two runs.**  `Follows.dispatchAll`: over services with any replies the same happens at once as
  over services that always succeed, and the ledger holds between the calls of the two runs. -/

namespace SpokenEditor

/-! ### Cutting a list -/

section

variable {α : Type} (p : α → Bool)

/-- The beginning of a list up to the first element that satisfies `p`, with this element. -/
def upTo : List α → List α
  | [] => []
  | a :: l => if p a then [a] else a :: upTo l

variable {p}

/-- The list is cut after an element that satisfies `p` if none does before. -/
theorem upTo_append_cons {l : List α} {a : α} (hl : ∀ b ∈ l, p b = false) (ha : p a = true)
    (m : List α) : upTo p (l ++ a :: m) = l ++ [a] := by
  induction l with
  | nil => simp [upTo, ha]
  | cons b l ih =>
      have hb : p b = false := hl b List.mem_cons_self
      simp [upTo, hb, ih fun c hc => hl c (List.mem_cons_of_mem _ hc)]

/-- Without such an element nothing is cut. -/
theorem upTo_of_forall {l : List α} (hl : ∀ b ∈ l, p b = false) : upTo p l = l := by
  induction l with
  | nil => rfl
  | cons b l ih =>
      have hb : p b = false := hl b List.mem_cons_self
      simp [upTo, hb, ih fun c hc => hl c (List.mem_cons_of_mem _ hc)]

/-- What comes after the cut does not matter. -/
theorem upTo_append_of_exists {l : List α} (h : ∃ a ∈ upTo p l, p a = true) (m : List α) :
    upTo p (l ++ m) = upTo p l := by
  induction l with
  | nil => simp [upTo] at h
  | cons b l ih =>
      cases hb : p b with
      | true => simp [upTo, hb]
      | false =>
          have hl : ∃ a ∈ upTo p l, p a = true := by simpa [upTo, hb] using h
          simp [upTo, hb, ih hl]

end

/-! ### The ledger -/

/-- The calls submitted, the calls reached and the calls that still wait, while no service broke
down and afterwards.  What waits when a service breaks down is lost. -/
structure Ledger (breaks : Call → Bool) (submitted reached pending : List Call) (broken : Bool) :
    Prop where
  whole : broken = false → submitted = reached ++ pending ∧ ∀ c ∈ reached, breaks c = false
  cut : broken = true → reached = upTo breaks submitted ∧ ∃ c ∈ reached, breaks c = true

namespace Ledger

variable {breaks : Call → Bool} {submitted reached pending : List Call} {broken : Bool}

theorem nil : Ledger breaks [] [] [] false :=
  ⟨fun _ => ⟨rfl, by simp⟩, nofun⟩

/-- After a breakdown it does not matter what waits. -/
theorem of_broken (h : Ledger breaks submitted reached pending true) (rest : List Call) :
    Ledger breaks submitted reached rest true :=
  ⟨nofun, h.cut⟩

/-- A call is submitted, and waits. -/
theorem submit (h : Ledger breaks submitted reached pending broken) (c : Call) :
    Ledger breaks (submitted ++ [c]) reached (pending ++ [c]) broken := by
  constructor
  · intro hb
    obtain ⟨hs, hr⟩ := h.whole hb
    exact ⟨by rw [hs, List.append_assoc], hr⟩
  · intro hb
    obtain ⟨hs, hr⟩ := h.cut hb
    have hcut : ∃ a ∈ upTo breaks submitted, breaks a = true := hs ▸ hr
    exact ⟨by rw [upTo_append_of_exists hcut, hs], hr⟩

/-- The first call that waits is made. -/
theorem perform {c : Call} (h : Ledger breaks submitted reached (c :: pending) false) :
    Ledger breaks submitted (reached ++ [c]) pending (breaks c) := by
  obtain ⟨hs, hr⟩ := h.whole rfl
  constructor
  · intro hc
    refine ⟨by simp [hs], ?_⟩
    intro b hb
    rw [List.mem_append, List.mem_singleton] at hb
    obtain hb | rfl := hb
    · exact hr b hb
    · exact hc
  · intro hc
    exact ⟨by rw [hs, upTo_append_cons hr hc], c, by simp, hc⟩

/-- When nothing waits any more, the calls reached are those submitted up to the first in which a
service broke down. -/
theorem eq_upTo (h : Ledger breaks submitted reached [] broken) :
    reached = upTo breaks submitted := by
  cases broken with
  | true => exact (h.cut rfl).1
  | false =>
      obtain ⟨hs, hr⟩ := h.whole rfl
      rw [List.append_nil] at hs
      rw [hs, upTo_of_forall hr]

/-- A service broke down exactly if a call in which it does was reached. -/
theorem broken_iff (h : Ledger breaks submitted reached pending broken) :
    broken = true ↔ ∃ c ∈ reached, breaks c = true := by
  constructor
  · intro hb
    exact (h.cut hb).2
  · rintro ⟨c, hc, hbreaks⟩
    by_contra hb
    have hr := (h.whole (Bool.eq_false_iff.2 hb)).2 c hc
    rw [hbreaks] at hr
    cases hr

end Ledger

/-! ### The two parts of an outcome -/

/-- Whether the effect comes at once and not by way of the worker. -/
def Effect.isInline (e : Effect) : Bool :=
  e.call?.isNone

/-- The call a command leads to, given the files shown and the open file. -/
def Command.call? (files : List Candidate) (current : Option FileHandle) (threshold : Binary64) :
    Command → Option Call
  | selectField f => some (.selectField f)
  | fillField f value => some (.fillField f value)
  | switchForm login => some (.setLoginMode login)
  | submitForm => some .submitLogin
  | createProject name => some (.createProject name)
  | createFile path => some (.createFile path)
  | runCode => some .run
  | openFile query => (resolve query files threshold).map fun file => .openFile file.handle
  | saveFile => current.map .saveFile
  | logOut => some .logOut
  | enterEdit | exitEdit | unrecognized => none

namespace Outcome

/-- The call an outcome leads to, given the files shown and the open file. -/
def call? (files : List Candidate) (current : Option FileHandle) (threshold : Binary64) :
    Outcome → Option Call
  | command c => c.call? files current threshold
  | edit _ | ignored => none

variable {β : Type} [EditingSurface β]

/-- What an outcome does at once. -/
def atOnce (surface : β) : Outcome → List Effect
  | edit e => [.cursor, .applyEdit (EditingSurface.cursor surface) e, .focus]
  | command (.openFile _) => [.listCandidates]
  | command .saveFile => [.currentFile]
  | command _ | ignored => []

/-- The surface after an outcome. -/
def onSurface (surface : β) : Outcome → β
  | edit e =>
    EditingSurface.focus (EditingSurface.applyEdit (EditingSurface.cursor surface) e surface)
  | command _ | ignored => surface

theorem filterMap_call?_atOnce (o : Outcome) (surface : β) :
    (o.atOnce surface).filterMap Effect.call? = [] := by
  unfold atOnce
  split <;> rfl

end Outcome

namespace Dispatcher

variable {β σ : Type}

/-- What was done at once so far: the edits and the lookups of files. -/
def inline (d : Dispatcher β σ) : List Effect :=
  d.trace.filter Effect.isInline

/-- The dispatcher once an outcome was carried out as far as it is at once. -/
def carryOut [EditingSurface β] (o : Outcome) (d : Dispatcher β σ) : Dispatcher β σ :=
  { d with surface := o.onSurface d.surface }.note (o.atOnce d.surface)

/-- The call an outcome leads to. -/
def callOf [Services σ] (o : Outcome) (d : Dispatcher β σ) : Option Call :=
  o.call? (Services.candidates d.worker.services) (Services.currentFile d.worker.services)
    d.threshold

theorem note_nil (d : Dispatcher β σ) : d.note [] = d := by
  simp [note]

/-- **The two parts of an outcome**: what is done at once, and the call. -/
theorem dispatch_eq [EditingSurface β] [Services σ] (o : Outcome) (d : Dispatcher β σ) :
    d.dispatch o = (d.carryOut o).submit? (d.callOf o) := by
  cases o with
  | edit e => rfl
  | ignored => exact (note_nil d).symm
  | command c =>
      have hnone : d.carryOut (.command c) = d.note ((Outcome.command c).atOnce d.surface) := rfl
      cases c with
      | openFile query => rfl
      | saveFile => rfl
      | _ => rw [hnone]; simp only [Outcome.atOnce, note_nil]; rfl

section

variable [Services σ]

/-- Nothing is submitted to a worker that has ended. -/
theorem submit?_of_not_alive {d : Dispatcher β σ} (h : d.worker.alive = false) (c : Option Call) :
    d.submit? c = d := by
  cases c with
  | none => rfl
  | some c =>
      simp only [submit?, submit, Worker.submit_of_not_alive h, List.map_nil]
      exact note_nil d

theorem trace_submit? {d : Dispatcher β σ} (h : d.worker.alive = true) (c : Option Call) :
    (d.submit? c).trace = d.trace ++ c.toList.map .call := by
  cases c with
  | none => simp [submit?]
  | some c =>
      have hreached : (d.worker.submit c).1 = [c] := by rw [Worker.fst_submit, if_pos h]
      simp [submit?, submit, hreached]

theorem inline_submit? (c : Option Call) (d : Dispatcher β σ) :
    (d.submit? c).inline = d.inline := by
  cases h : d.worker.alive with
  | false => rw [submit?_of_not_alive h]
  | true =>
      unfold inline
      rw [trace_submit? h]
      cases c <;> simp [Effect.isInline, Effect.call?]

theorem calls_submit? {d : Dispatcher β σ} (h : d.worker.alive = true) (c : Option Call) :
    (d.submit? c).calls = d.calls ++ c.toList := by
  unfold calls
  rw [trace_submit? h]
  cases c <;> simp [Effect.call?]

end

section

variable [EditingSurface β] [Services σ]

omit [Services σ] in
theorem calls_carryOut (o : Outcome) (d : Dispatcher β σ) : (d.carryOut o).calls = d.calls := by
  unfold calls carryOut
  rw [trace_note, List.filterMap_append, Outcome.filterMap_call?_atOnce, List.append_nil]

theorem calls_dispatch {d : Dispatcher β σ} (h : d.worker.alive = true) (o : Outcome) :
    (d.dispatch o).calls = d.calls ++ (d.callOf o).toList := by
  have hcarried : (d.carryOut o).worker.alive = true := h
  rw [dispatch_eq, calls_submit? hcarried, calls_carryOut]

/-- The dispatcher after the outcomes, one after the other. -/
def dispatchAll (outcomes : List Outcome) (d : Dispatcher β σ) : Dispatcher β σ :=
  outcomes.foldl (fun d o => d.dispatch o) d

end

end Dispatcher

/-! ### Two runs -/

/-- Whether a service breaks down in the call. -/
def FixedServices.breaks (s : FixedServices) (c : Call) : Bool :=
  s.reply c.method == .broken

namespace Dispatcher

variable {β : Type}

/-- The dispatcher `d` did at once what the dispatcher `ideal` did, whose services always succeed,
and the ledger holds of the calls of the two. -/
structure Follows (d ideal : Dispatcher β FixedServices) : Prop where
  surface : d.surface = ideal.surface
  threshold : d.threshold = ideal.threshold
  files : d.worker.services.files = ideal.worker.services.files
  current : d.worker.services.current = ideal.worker.services.current
  inline : d.inline = ideal.inline
  succeeds : ∀ m, ideal.worker.services.reply m = .done
  alive : ideal.worker.alive = true
  ledger : Ledger d.worker.services.breaks ideal.calls d.calls [] d.isBroken

theorem services_submit? (c : Option Call) (d : Dispatcher β FixedServices) :
    (d.submit? c).worker.services = d.worker.services := by
  cases c with
  | none => rfl
  | some c =>
      simp only [submit?, submit, Worker.submit]
      split <;> rfl

/-- A worker is alive after a call if it was before and no service breaks down in the call. -/
theorem isBroken_submit {d : Dispatcher β FixedServices} (h : d.worker.alive = true) (c : Call) :
    (d.submit c).isBroken = d.worker.services.breaks c := by
  unfold submit Worker.submit
  rw [if_pos h]
  show (!(d.worker.services.reply c.method != .broken)) = _
  rw [bne, Bool.not_not]
  rfl

namespace Follows

variable {d ideal : Dispatcher β FixedServices}

theorem start (surface : β) (services : FixedServices) (threshold : Binary64) :
    Follows (.start surface services threshold)
      (.start surface { services with reply := fun _ => .done } threshold) where
  surface := rfl
  threshold := rfl
  files := rfl
  current := rfl
  inline := rfl
  succeeds _ := rfl
  alive := rfl
  ledger := .nil

theorem callOf_eq (h : Follows d ideal) (o : Outcome) : d.callOf o = ideal.callOf o := by
  unfold callOf
  have hfiles : Services.candidates d.worker.services =
      Services.candidates ideal.worker.services := h.files
  have hcurrent : Services.currentFile d.worker.services =
      Services.currentFile ideal.worker.services := h.current
  rw [hfiles, hcurrent, h.threshold]

theorem carryOut [EditingSurface β] (h : Follows d ideal) (o : Outcome) :
    Follows (d.carryOut o) (ideal.carryOut o) where
  surface := congrArg o.onSurface h.surface
  threshold := h.threshold
  files := h.files
  current := h.current
  inline := by
    have hinline := h.inline
    unfold Dispatcher.inline at hinline ⊢
    unfold Dispatcher.carryOut
    rw [trace_note, trace_note, List.filter_append, List.filter_append, hinline, h.surface]
  succeeds := h.succeeds
  alive := h.alive
  ledger := by
    rw [calls_carryOut, calls_carryOut]
    exact h.ledger

/-- A call is submitted in both runs. -/
theorem submit (h : Follows d ideal) (c : Call) : Follows (d.submit c) (ideal.submit c) := by
  have hd : (d.submit c).worker.services = d.worker.services := services_submit? (some c) d
  have hideal : (ideal.submit c).worker.services = ideal.worker.services :=
    services_submit? (some c) ideal
  have hcalls : (ideal.submit c).calls = ideal.calls ++ [c] := calls_submit? h.alive (some c)
  constructor
  · exact h.surface
  · exact h.threshold
  · rw [hd, hideal]
    exact h.files
  · rw [hd, hideal]
    exact h.current
  · have hinline := h.inline
    rw [← inline_submit? (some c) d, ← inline_submit? (some c) ideal] at hinline
    exact hinline
  · rw [hideal]
    exact h.succeeds
  · have hunbroken := isBroken_submit h.alive c
    have hreply : ideal.worker.services.breaks c = false := by
      simp [FixedServices.breaks, h.succeeds]
    simpa [isBroken, hreply] using hunbroken
  · rw [hd, hcalls]
    have hsubmitted := h.ledger.submit c
    cases halive : d.worker.alive with
    | true =>
        have hbroken : d.isBroken = false := by simp [isBroken, halive]
        have hreached : (d.submit c).calls = d.calls ++ [c] := calls_submit? halive (some c)
        rw [hbroken] at hsubmitted
        rw [hreached, isBroken_submit halive]
        exact hsubmitted.perform
    | false =>
        have hbroken : d.isBroken = true := by simp [isBroken, halive]
        have hdropped : d.submit c = d := submit?_of_not_alive halive (some c)
        rw [hdropped, hbroken]
        rw [hbroken] at hsubmitted
        exact hsubmitted.of_broken []

theorem dispatch [EditingSurface β] (h : Follows d ideal) (o : Outcome) :
    Follows (d.dispatch o) (ideal.dispatch o) := by
  rw [dispatch_eq, dispatch_eq, h.callOf_eq]
  cases ideal.callOf o with
  | none => exact h.carryOut o
  | some c => exact (h.carryOut o).submit c

/-- **Two runs.**  The outcomes are carried out over any services and over services that always
succeed. -/
theorem dispatchAll [EditingSurface β] (h : Follows d ideal) (outcomes : List Outcome) :
    Follows (d.dispatchAll outcomes) (ideal.dispatchAll outcomes) := by
  induction outcomes generalizing d ideal with
  | nil => exact h
  | cons o outcomes ih => exact ih (h.dispatch o)

end Follows

/-- What failures of services may do to a run: nothing to what is done at once, and to the calls only
a cut after the first in which a service breaks down.  A panic is raised exactly if such a call was
reached. -/
structure Contained (breaks : Call → Bool) (ideal : Dispatcher β FixedServices)
    (inline : List Effect) (reached : List Call) (raised : Bool) : Prop where
  inline_eq : inline = ideal.inline
  reached_eq : reached = upTo breaks ideal.calls
  raised_iff : raised = true ↔ ∃ c ∈ reached, breaks c = true

theorem Follows.contained {d ideal : Dispatcher β FixedServices} (h : Follows d ideal) :
    Contained d.worker.services.breaks ideal d.inline d.calls d.isBroken :=
  ⟨h.inline, h.ledger.eq_upTo, h.ledger.broken_iff⟩

theorem services_dispatchAll [EditingSurface β] (outcomes : List Outcome)
    (d : Dispatcher β FixedServices) :
    (d.dispatchAll outcomes).worker.services = d.worker.services := by
  induction outcomes generalizing d with
  | nil => rfl
  | cons o outcomes ih =>
      have hone : (d.dispatch o).worker.services = d.worker.services := by
        rw [dispatch_eq, services_submit?]
        rfl
      exact (ih (d.dispatch o)).trans hone

end Dispatcher

end SpokenEditor
