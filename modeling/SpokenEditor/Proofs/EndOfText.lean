import SpokenEditor.Buffer.Surface
import SpokenEditor.Proofs.Effects
import SpokenEditor.Proofs.LastWord
import SpokenEditor.Proofs.Positions
import SpokenEditor.Session.Basic

/-! # Dictation at the end of the text

A session over a text buffer writes and deletes only at the end of the text: the cursor never leaves
it, so the outcomes alone tell what becomes of the text.

* `AtEnd`: what an outcome makes of a text, at its end;
* `Buffer.atEnd_applyHere`: an edit of a buffer that is open at its end;
* `Session.atEnd_step`: one step keeps the cursor at the end;
* `Session.run_atEnd`: so does every run. -/

namespace SpokenEditor

/-- `AtEnd outcome t u`: at the end of the text `t`, the outcome of a step makes `u` of it. -/
def AtEnd : Option Outcome → Text → Text → Prop
  | some (.edit (.insertText new)), t, u => u = t ++ new
  | some (.edit (.deleteLeft n)), t, u => u = t.take (t.length - min n t.length)
  | some (.edit .deleteLine), t, u => Text.LineCleared t u
  | some (.edit .deleteWord), t, u => Text.WordDeleted t u
  | some (.command _), t, u => u = t
  | some .ignored, t, u => u = t
  | none, t, u => u = t

/-! ### One edit -/

namespace Buffer

theorem text_of_after_eq_nil {b : Buffer} (h : b.after = []) : b.text = b.before := by
  rw [text, h, List.append_nil]

/-- Every edit at the end leaves the cursor at the end. -/
theorem after_applyHere {b : Buffer} (h : b.after = []) (e : Edit) : (b.applyHere e).after = [] := by
  cases e with
  | insertText t => exact h
  | deleteLeft n => exact h
  | deleteWord => exact h
  | deleteLine => rw [applyHere, deleteLine, h, List.dropWhile_nil]

/-- **An edit of a buffer whose cursor is at the end.** -/
theorem atEnd_applyHere {b : Buffer} (h : b.after = []) (e : Edit) (u : Text) :
    AtEnd (some (.edit e)) b.text u ↔ (b.applyHere e).text = u := by
  rw [text_of_after_eq_nil h, text_of_after_eq_nil (after_applyHere h e)]
  cases e with
  | insertText t => exact eq_comm
  | deleteLeft n =>
      have hn : b.before.length - min n b.before.length = b.before.length - n := by omega
      simp only [AtEnd, applyHere, deleteLeft, hn]
      exact eq_comm
  | deleteWord => exact Text.wordDeleted_iff
  | deleteLine => exact Text.lineCleared_iff

end Buffer

/-! ### One step -/

namespace Dispatcher

variable {σ : Type}

/-- An edit is applied where the cursor stands, and the focus is taken. -/
theorem surface_edit (e : Edit) (d : Dispatcher Buffer σ) :
    (d.edit e).surface = (d.surface.applyHere e).focus :=
  congrArg Buffer.focus (d.surface.apply_cursor e)

end Dispatcher

namespace Session

variable {σ : Type} [Services σ]

/-- One step of a session whose cursor is at the end. -/
theorem atEnd_step {s : Session Buffer σ} (h : s.dispatcher.surface.after = [])
    (event : SessionEvent) :
    (s.step event).2.dispatcher.surface.after = [] ∧
      ∀ u, AtEnd (s.step event).1 s.dispatcher.surface.text u ↔
        (s.step event).2.dispatcher.surface.text = u := by
  cases event with
  | authenticated b => exact ⟨h, fun u => eq_comm⟩
  | heard t =>
      obtain ⟨o, ho⟩ : ∃ o, (s.hear t).1 = o := ⟨_, rfl⟩
      have hnext : (s.hear t).2.dispatcher = s.dispatcher.dispatch o := ho ▸ rfl
      show (s.hear t).2.dispatcher.surface.after = [] ∧ ∀ u,
        AtEnd (some (s.hear t).1) _ u ↔ (s.hear t).2.dispatcher.surface.text = u
      rw [hnext, ho]
      cases o with
      | ignored => exact ⟨h, fun u => eq_comm⟩
      | command c =>
          rw [Dispatcher.surface_dispatch_command]
          exact ⟨h, fun u => eq_comm⟩
      | edit e =>
          rw [Dispatcher.dispatch, Dispatcher.surface_edit]
          exact ⟨Buffer.after_applyHere h e, Buffer.atEnd_applyHere h e⟩

/-- The cursor stays at the end, by induction on the run. -/
theorem after_run : ∀ (events : List SessionEvent) {s : Session Buffer σ},
    s.dispatcher.surface.after = [] → (s.run events).dispatcher.surface.after = []
  | [], _, h => h
  | event :: events, _, h => after_run events (atEnd_step h event).1

/-- **A session writes at the end of the text.** After any run over a buffer with any initial text,
and any services, the cursor stands behind the whole text.  Whatever event comes next, its outcome
alone determines the next text, and the cursor is at the end again. -/
theorem run_atEnd (text : Text) (services : σ) (threshold : Binary64) (events : List SessionEvent)
    (event : SessionEvent) :
    let s := (Session.start (.start (Buffer.ofText text) services threshold)).run events
    let next := s.step event
    s.dispatcher.surface.offset = s.dispatcher.surface.text.length ∧
      next.2.dispatcher.surface.offset = next.2.dispatcher.surface.text.length ∧
      ∀ u, AtEnd next.1 s.dispatcher.surface.text u ↔ next.2.dispatcher.surface.text = u := by
  intro s next
  have hs : s.dispatcher.surface.after = [] := after_run events rfl
  obtain ⟨hnext, htext⟩ := atEnd_step hs event
  refine ⟨?_, ?_, htext⟩
  · rw [Buffer.text_of_after_eq_nil hs, Buffer.offset]
  · rw [Buffer.text_of_after_eq_nil hnext, Buffer.offset]

end Session
end SpokenEditor
