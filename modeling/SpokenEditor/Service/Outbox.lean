import SpokenEditor.Service.Worker

/-!
# The thread of the worker

The worker runs on a thread of its own and takes its calls from a queue without a bound.  `Worker`
says what a call leads to when the next one is only made after it; here the calls wait in the queue
and the thread takes them when it gets to it.

* **Requests.**  What is put in the queue is a call, or a flush: the thread that put it there wants
  to know that all that stands before it was carried out.  A flush needs no other answer than to
  leave the queue, and it also leaves it when the queue is let go of.
* **The end.**  A call in which a service breaks down ends the thread with a panic.  The queue is
  let go of on the way out, some time after the call, and requests that come in until then are lost
  with it; requests that come later are dropped at once.  Without a panic the thread ends when the
  queue is closed and empty.
* **Left out.**  A thread that could not be started at all, and a call that never returns. -/

namespace SpokenEditor

/-- What is put in the queue of the worker. -/
inductive Request where
  | call (c : Call)
  | flush
  deriving DecidableEq, Repr

/-- The call of a request, if it is one. -/
def Request.call? : Request → Option Call
  | call c => some c
  | flush => none

/-- Where the thread of the worker is. -/
inductive WorkerThread where
  | working
  /-- A service broke down, and the queue has yet to be let go of. -/
  | unwinding
  | panicked
  | ended
  deriving DecidableEq, Repr

namespace WorkerThread

/-- Whether the thread still has its end of the queue. -/
def receives : WorkerThread → Bool
  | working | unwinding => true
  | panicked | ended => false

/-- Whether a service broke down. -/
def hasBroken : WorkerThread → Bool
  | unwinding | panicked => true
  | working | ended => false

end WorkerThread

/-- The services behind a queue, with the calls that reached them. -/
structure Outbox (σ : Type) where
  services : σ
  queue : List Request
  /-- Whether more may be put in the queue. -/
  isOpen : Bool
  thread : WorkerThread
  reached : List Call

namespace Outbox

variable {σ : Type}

/-- The outbox with nothing in the queue. -/
def start (services : σ) : Outbox σ :=
  ⟨services, [], true, .working, []⟩

/-- The calls in the queue. -/
def pending (o : Outbox σ) : List Call :=
  o.queue.filterMap Request.call?

/-- Put a request in the queue.  It is dropped when nobody is there to take it. -/
def send (r : Request) (o : Outbox σ) : Outbox σ :=
  if o.isOpen && o.thread.receives then { o with queue := o.queue ++ [r] } else o

/-- Close the queue. -/
def close (o : Outbox σ) : Outbox σ :=
  { o with isOpen := false }

@[simp] theorem services_send (r : Request) (o : Outbox σ) :
    (o.send r).services = o.services := by
  unfold send
  split <;> rfl

@[simp] theorem isOpen_send (r : Request) (o : Outbox σ) : (o.send r).isOpen = o.isOpen := by
  unfold send
  split <;> rfl

@[simp] theorem thread_send (r : Request) (o : Outbox σ) : (o.send r).thread = o.thread := by
  unfold send
  split <;> rfl

@[simp] theorem reached_send (r : Request) (o : Outbox σ) : (o.send r).reached = o.reached := by
  unfold send
  split <;> rfl

/-- A request gets in if the queue is open and the thread receives. -/
theorem queue_send (r : Request) {o : Outbox σ} (hopen : o.isOpen = true)
    (hthread : o.thread.receives = true) : (o.send r).queue = o.queue ++ [r] := by
  simp [send, hopen, hthread]

/-- A request to a thread that is gone is dropped. -/
theorem send_of_not_receives (r : Request) {o : Outbox σ} (h : o.thread.receives = false) :
    o.send r = o := by
  simp [send, h]

theorem length_queue_send (r : Request) (o : Outbox σ) :
    (o.send r).queue.length ≤ o.queue.length + 1 := by
  unfold send
  split <;> simp

variable [Services σ]

/-- A step of the worker's thread. -/
inductive Turn : Outbox σ → Outbox σ → Prop
  /-- The call returns.  If the service failed, the failure is left alone. -/
  | call {o : Outbox σ} {c : Call} {rest : List Request} (hthread : o.thread = .working)
      (hqueue : o.queue = .call c :: rest)
      (hreply : (Services.perform c o.services).1 ≠ .broken) :
      Turn o { o with services := (Services.perform c o.services).2, queue := rest,
                      reached := o.reached ++ [c] }
  /-- The service breaks down. -/
  | breakDown {o : Outbox σ} {c : Call} {rest : List Request} (hthread : o.thread = .working)
      (hqueue : o.queue = .call c :: rest)
      (hreply : (Services.perform c o.services).1 = .broken) :
      Turn o { o with services := (Services.perform c o.services).2, queue := rest,
                      reached := o.reached ++ [c], thread := .unwinding }
  /-- Whoever waits is told. -/
  | flush {o : Outbox σ} {rest : List Request} (hthread : o.thread = .working)
      (hqueue : o.queue = .flush :: rest) : Turn o { o with queue := rest }
  /-- The queue is let go of, with all that is in it. -/
  | unwind {o : Outbox σ} (hthread : o.thread = .unwinding) :
      Turn o { o with queue := [], thread := .panicked }
  /-- Nothing more will come. -/
  | finish {o : Outbox σ} (hthread : o.thread = .working) (hqueue : o.queue = [])
      (hclosed : o.isOpen = false) : Turn o { o with thread := .ended }

/-- To a dispatcher the outbox is the services.  Files are looked up at once; a call is put in the
queue, and nothing is known of how it ends. -/
instance : Services (Outbox σ) where
  candidates o := Services.candidates o.services
  currentFile o := Services.currentFile o.services
  perform c o := (.done, o.send (.call c))

end Outbox

end SpokenEditor
