import SpokenEditor.Service.Outbox
import SpokenEditor.Session.Dispatcher

/-!
# Two threads

A dispatcher on one thread, the worker of its services on another.  The thread of the dispatcher
carries out a program: it dispatches outcomes and waits for the worker.  When the program is over the
dispatcher is given up: the queue is closed, the thread of the worker is joined, and if it panicked
the panic is raised again.

`Moves` is one step of one of the threads.  Which of them steps is left open, so what holds of every
sequence of moves holds under every schedule.  A wait is over when the flush it put in the queue is
no longer there, whether the worker came to it, the queue was let go of, or it never got in. -/

namespace SpokenEditor

/-- What the thread of a dispatcher is asked to do. -/
inductive Instruction where
  | dispatch (o : Outcome)
  /-- Wait until the worker has done all that was dispatched. -/
  | wait
  deriving DecidableEq, Repr

/-- The outcome of an instruction, if it dispatches one. -/
def Instruction.outcome? : Instruction → Option Outcome
  | dispatch o => some o
  | wait => none

/-- Where the thread of a dispatcher is, with what it still has to do. -/
inductive Stage where
  | running (program : List Instruction)
  | waiting (program : List Instruction)
  /-- The dispatcher is given up, and the worker has yet to end. -/
  | joining
  /-- It is over, and whether a panic was raised. -/
  | finished (raised : Bool)
  deriving DecidableEq, Repr

namespace Stage

/-- What is still to do. -/
def remaining : Stage → List Instruction
  | running program | waiting program => program
  | joining | finished _ => []

/-- Whether the dispatcher is still in use. -/
def inUse : Stage → Bool
  | running _ | waiting _ => true
  | joining | finished _ => false

end Stage

namespace Dispatcher

variable {β σ : Type}

/-- The queue of a dispatcher's worker. -/
def outbox (d : Dispatcher β (Outbox σ)) : Outbox σ :=
  d.worker.services

/-- The dispatcher with another queue. -/
def withOutbox (o : Outbox σ) (d : Dispatcher β (Outbox σ)) : Dispatcher β (Outbox σ) :=
  { d with worker := { d.worker with services := o } }

@[simp] theorem outbox_withOutbox (o : Outbox σ) (d : Dispatcher β (Outbox σ)) :
    (d.withOutbox o).outbox = o := rfl

end Dispatcher

/-- The two threads. -/
structure Threads (β σ : Type) where
  stage : Stage
  dispatcher : Dispatcher β (Outbox σ)

namespace Threads

variable {β σ : Type}

/-- The threads before the first step of a program. -/
def start (program : List Instruction) (surface : β) (services : σ) (threshold : Binary64) :
    Threads β σ :=
  ⟨.running program, .start surface (.start services) threshold⟩

/-- The queue between the threads. -/
def outbox (t : Threads β σ) : Outbox σ :=
  t.dispatcher.outbox

variable [EditingSurface β] [Services σ]

/-- A step of one of the threads. -/
inductive Moves : Threads β σ → Threads β σ → Prop
  | dispatch {o : Outcome} {program : List Instruction} {d : Dispatcher β (Outbox σ)} :
      Moves ⟨.running (.dispatch o :: program), d⟩ ⟨.running program, d.dispatch o⟩
  | wait {program : List Instruction} {d : Dispatcher β (Outbox σ)} :
      Moves ⟨.running (.wait :: program), d⟩
        ⟨.waiting program, d.withOutbox (d.outbox.send .flush)⟩
  | resume {program : List Instruction} {d : Dispatcher β (Outbox σ)}
      (hflush : .flush ∉ d.outbox.queue) : Moves ⟨.waiting program, d⟩ ⟨.running program, d⟩
  | giveUp {d : Dispatcher β (Outbox σ)} :
      Moves ⟨.running [], d⟩ ⟨.joining, d.withOutbox d.outbox.close⟩
  | join {d : Dispatcher β (Outbox σ)} (hthread : d.outbox.thread.receives = false) :
      Moves ⟨.joining, d⟩ ⟨.finished d.outbox.thread.hasBroken, d⟩
  | work {stage : Stage} {d : Dispatcher β (Outbox σ)} {o : Outbox σ} (hturn : d.outbox.Turn o) :
      Moves ⟨stage, d⟩ ⟨stage, d.withOutbox o⟩

end Threads

end SpokenEditor
