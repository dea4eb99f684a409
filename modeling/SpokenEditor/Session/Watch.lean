/-!
# Watched values

A watched value keeps its latest value only and counts how often one was sent, so that an observer
can tell that something was sent even if it is equal to what was there.
-/

namespace SpokenEditor

/-- A value that observers watch. -/
structure Watch (α : Type) where
  value : α
  sent : Nat
  deriving DecidableEq, Repr

namespace Watch

variable {α : Type}

/-- A value that has not been sent yet. -/
def ofValue (a : α) : Watch α :=
  ⟨a, 0⟩

/-- Send a value to the observers. -/
def send (a : α) (w : Watch α) : Watch α :=
  ⟨a, w.sent + 1⟩

@[simp] theorem value_send (a : α) (w : Watch α) : (w.send a).value = a := rfl

@[simp] theorem sent_send (a : α) (w : Watch α) : (w.send a).sent = w.sent + 1 := rfl

end Watch

end SpokenEditor
