import SpokenEditor.Service.Worker
import SpokenEditor.Session.Engine

/-!
# The dispatcher

Outcomes are carried out on the collaborators. An edit reads the cursor, changes the text there and
takes the focus. A command becomes at most one call to the services; to open or save a file, the
files shown or the open file are looked up first, and if there is none nothing is called.

Everything that is done to a collaborator is an effect. The dispatcher keeps the effects in order,
so that one can say of a run what was touched.
-/

namespace SpokenEditor

/-- Something done to a collaborator. -/
inductive Effect where
  | cursor
  | applyEdit (position : Position) (edit : Edit)
  | focus
  | listCandidates
  | currentFile
  | call (c : Call)
  deriving DecidableEq, Repr

namespace Effect

/-- The call of an effect on the services, if it is one. -/
def call? : Effect → Option Call
  | call c => some c
  | _ => none

/-- Whether the effect looks up files. -/
def isLookup : Effect → Bool
  | listCandidates | currentFile => true
  | _ => false

/-- Whether the effect is on the editing surface. -/
def onSurface : Effect → Bool
  | cursor | applyEdit _ _ | focus => true
  | _ => false

end Effect

/-- The collaborators with the effects on them so far. -/
structure Dispatcher (β σ : Type) where
  surface : β
  worker : Worker σ
  /-- The score above which a file counts as meant. -/
  threshold : Binary64
  trace : List Effect

namespace Dispatcher

variable {β σ : Type}

/-- The dispatcher over the collaborators. -/
def start (surface : β) (services : σ) (threshold : Binary64) : Dispatcher β σ :=
  ⟨surface, ⟨services, true⟩, threshold, []⟩

/-- Note effects. -/
def note (es : List Effect) (d : Dispatcher β σ) : Dispatcher β σ :=
  { d with trace := d.trace ++ es }

@[simp] theorem trace_note (es : List Effect) (d : Dispatcher β σ) :
    (d.note es).trace = d.trace ++ es := rfl

/-- The calls to the services so far. -/
def calls (d : Dispatcher β σ) : List Call :=
  d.trace.filterMap Effect.call?

/-- The lookups of files so far. -/
def lookups (d : Dispatcher β σ) : List Effect :=
  d.trace.filter Effect.isLookup

/-- Whether a service broke down, which shows when the dispatcher is given up. -/
def isBroken (d : Dispatcher β σ) : Bool :=
  !d.worker.alive

/-! ### Carrying out outcomes -/

section

variable [EditingSurface β]

/-- Change the text at the cursor and take the focus. -/
def edit (e : Edit) (d : Dispatcher β σ) : Dispatcher β σ :=
  let position := EditingSurface.cursor d.surface
  let surface := EditingSurface.focus (EditingSurface.applyEdit position e d.surface)
  { d with surface }.note [.cursor, .applyEdit position e, .focus]

end

section

variable [Services σ]

/-- Have the worker carry out a call. -/
def submit (c : Call) (d : Dispatcher β σ) : Dispatcher β σ :=
  let (reached, worker) := d.worker.submit c
  { d with worker }.note (reached.map .call)

/-- Have the worker carry out a call, if there is one. -/
def submit? (c : Option Call) (d : Dispatcher β σ) : Dispatcher β σ :=
  match c with
  | some c => d.submit c
  | none => d

/-- Carry out a command. -/
def command (c : Command) (d : Dispatcher β σ) : Dispatcher β σ :=
  match c with
  | .selectField f => d.submit (.selectField f)
  | .fillField f value => d.submit (.fillField f value)
  | .switchForm login => d.submit (.setLoginMode login)
  | .submitForm => d.submit .submitLogin
  | .createProject name => d.submit (.createProject name)
  | .createFile path => d.submit (.createFile path)
  | .runCode => d.submit .run
  | .openFile query =>
    let found := resolve query (Services.candidates d.worker.services) d.threshold
    (d.note [.listCandidates]).submit? (found.map fun file => .openFile file.handle)
  | .saveFile =>
    let current := Services.currentFile d.worker.services
    (d.note [.currentFile]).submit? (current.map .saveFile)
  | .logOut => d.submit .logOut
  | .enterEdit | .exitEdit | .unrecognized => d

end

variable [EditingSurface β] [Services σ]

/-- Carry out an outcome. -/
def dispatch (o : Outcome) (d : Dispatcher β σ) : Dispatcher β σ :=
  match o with
  | .edit e => d.edit e
  | .command c => d.command c
  | .ignored => d

end Dispatcher

end SpokenEditor
