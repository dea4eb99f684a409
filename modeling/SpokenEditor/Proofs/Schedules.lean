import SpokenEditor.Proofs.Failures
import SpokenEditor.Session.Threads
import Mathlib.Logic.Relation

/-! # Two threads under every schedule

The running dispatcher makes a call as soon as it is submitted.  Here the dispatcher and its worker
are two threads, and nothing is assumed of the schedule.

* **Nothing blocks for good.**  Every move lowers the `effort` (`Moves.effort_lt`), so no sequence of
  moves goes on forever (`wellFounded_moves`); and in every state that can be reached there is a move
  unless the program is over and the worker was joined (`Orderly.exists_move_or_finished`).  Hence
  every sequence of moves ends with everything dispatched and every wait over.
* **Nothing is lost or reordered.**  The thread of the dispatcher does what the dispatcher does whose
  services always succeed (`ideal_dispatch`, `foreseen_of_moves`); between what it submits and what
  reaches the services the ledger holds (`Moves.accounts`); so when a wait is over, all calls
  submitted before it were reached or come after a breakdown (`reached_of_waited`).
* **The two descriptions agree.**  `run_containsFailures`: the running dispatcher and the two threads
  end with the same effects, the same calls and the same panic.

A call is one step of the worker, so a call that never returns is left out. -/

namespace SpokenEditor

open Relation (ReflTransGen)

/-! ### The queue -/

namespace Outbox

variable {σ : Type}

/-- Nothing waits for a thread that is gone, and the thread ends only when the queue is closed. -/
structure Tidy (o : Outbox σ) : Prop where
  drained : o.thread.receives = false → o.queue = []
  ended : o.thread = .ended → o.isOpen = false

theorem Tidy.send {o : Outbox σ} (h : o.Tidy) (r : Request) : (o.send r).Tidy := by
  cases hthread : o.thread.receives with
  | false => rwa [send_of_not_receives r hthread]
  | true =>
      constructor
      · intro hgone
        rw [thread_send, hthread] at hgone
        cases hgone
      · rw [thread_send, isOpen_send]
        exact h.ended

theorem Tidy.close {o : Outbox σ} (h : o.Tidy) : o.close.Tidy :=
  ⟨h.drained, fun _ => rfl⟩

/-- While the queue is open, the thread is gone only after a breakdown. -/
theorem Tidy.hasBroken {o : Outbox σ} (h : o.Tidy) (hopen : o.isOpen = true)
    (hthread : o.thread.receives = false) : o.thread.hasBroken = true := by
  cases hwhere : o.thread with
  | panicked => rfl
  | ended =>
      have hclosed := h.ended hwhere
      rw [hopen] at hclosed
      cases hclosed
  | working =>
      rw [hwhere] at hthread
      cases hthread
  | unwinding =>
      rw [hwhere] at hthread
      cases hthread

theorem pending_of_nil {o : Outbox σ} (h : o.queue = []) : o.pending = [] := by
  unfold pending
  rw [h]
  rfl

theorem pending_of_cons {o : Outbox σ} {r : Request} {rest : List Request}
    (h : o.queue = r :: rest) : o.pending = r.call?.toList ++ rest.filterMap Request.call? := by
  unfold pending
  rw [h]
  cases r <;> rfl

/-- A flush is not a call. -/
theorem pending_send_flush (o : Outbox σ) : (o.send .flush).pending = o.pending := by
  unfold send pending
  split
  · simp [Request.call?]
  · rfl

theorem pending_send_call {o : Outbox σ} (hopen : o.isOpen = true)
    (hthread : o.thread.receives = true) (c : Call) :
    (o.send (.call c)).pending = o.pending ++ [c] := by
  unfold pending
  rw [queue_send _ hopen hthread]
  simp [Request.call?]

/-- How many steps the worker's thread has left, at most. -/
def effort (o : Outbox σ) : Nat :=
  o.queue.length +
    match o.thread with
    | .working => 2
    | .unwinding => 1
    | .panicked | .ended => 0

theorem effort_send (r : Request) (o : Outbox σ) : (o.send r).effort ≤ o.effort + 1 := by
  have hlength := o.length_queue_send r
  unfold effort
  rw [thread_send]
  omega

variable [Services σ]

theorem Turn.receives {o next : Outbox σ} (h : o.Turn next) : o.thread.receives = true := by
  cases h with
  | call hthread | breakDown hthread | flush hthread | unwind hthread | finish hthread =>
      rw [hthread]
      rfl

theorem Turn.isOpen_eq {o next : Outbox σ} (h : o.Turn next) : next.isOpen = o.isOpen := by
  cases h <;> rfl

/-- The thread takes the first request, or leaves none. -/
theorem Turn.queue_cases {o next : Outbox σ} (h : o.Turn next) :
    next.queue = [] ∨ ∃ r, o.queue = r :: next.queue := by
  cases h with
  | call _ hqueue | breakDown _ hqueue | flush _ hqueue => exact .inr ⟨_, hqueue⟩
  | unwind => exact .inl rfl
  | finish _ hqueue => exact .inl hqueue

theorem Turn.effort_lt {o next : Outbox σ} (h : o.Turn next) : next.effort < o.effort := by
  cases h with
  | call hthread hqueue => simp [effort, hthread, hqueue]
  | breakDown hthread hqueue => simp [effort, hthread, hqueue]
  | flush hthread hqueue => simp [effort, hthread, hqueue]
  | unwind hthread => simp [effort, hthread]
  | finish hthread hqueue => simp [effort, hthread, hqueue]

theorem Turn.tidy {o next : Outbox σ} (h : o.Turn next) : next.Tidy := by
  cases h with
  | call hthread | flush hthread =>
      constructor
      · intro hgone
        simp [hthread, WorkerThread.receives] at hgone
      · intro hended
        simp [hthread] at hended
  | breakDown => exact ⟨nofun, nofun⟩
  | unwind => exact ⟨fun _ => rfl, nofun⟩
  | finish _ hqueue hclosed => exact ⟨fun _ => hqueue, fun _ => hclosed⟩

/-- The worker's thread can step if it is there and has something to do or nothing to wait for. -/
theorem exists_turn {o : Outbox σ} (hthread : o.thread.receives = true)
    (htodo : o.queue ≠ [] ∨ o.isOpen = false) : ∃ next, o.Turn next := by
  cases hwhere : o.thread with
  | working =>
      cases hqueue : o.queue with
      | nil =>
          obtain hne | hclosed := htodo
          · exact absurd hqueue hne
          · exact ⟨_, .finish hwhere hqueue hclosed⟩
      | cons r rest =>
          cases r with
          | flush => exact ⟨_, .flush hwhere hqueue⟩
          | call c =>
              by_cases hreply : (Services.perform c o.services).1 = .broken
              · exact ⟨_, .breakDown hwhere hqueue hreply⟩
              · exact ⟨_, .call hwhere hqueue hreply⟩
  | unwinding => exact ⟨_, .unwind hwhere⟩
  | panicked =>
      rw [hwhere] at hthread
      cases hthread
  | ended =>
      rw [hwhere] at hthread
      cases hthread

end Outbox

/-! ### What a dispatcher puts in the queue -/

namespace Dispatcher

variable {β σ : Type} [Services σ]

theorem alive_submit?_outbox (c : Option Call) (d : Dispatcher β (Outbox σ)) :
    (d.submit? c).worker.alive = d.worker.alive := by
  cases c with
  | none => rfl
  | some c =>
      cases halive : d.worker.alive with
      | true => simp [submit?, submit, Worker.submit, note, halive, Services.perform]
      | false => rw [submit?_of_not_alive halive, halive]

theorem outbox_submit? {d : Dispatcher β (Outbox σ)} (h : d.worker.alive = true) (c : Option Call) :
    (d.submit? c).outbox = c.elim d.outbox fun c => d.outbox.send (.call c) := by
  cases c with
  | none => rfl
  | some c => simp [submit?, submit, Worker.submit, note, outbox, h, Services.perform]

variable [EditingSurface β]

theorem alive_dispatch_outbox (o : Outcome) (d : Dispatcher β (Outbox σ)) :
    (d.dispatch o).worker.alive = d.worker.alive := by
  rw [dispatch_eq, alive_submit?_outbox]
  rfl

theorem outbox_dispatch {d : Dispatcher β (Outbox σ)} (h : d.worker.alive = true) (o : Outcome) :
    (d.dispatch o).outbox = (d.callOf o).elim d.outbox fun c => d.outbox.send (.call c) := by
  have hcarried : (d.carryOut o).worker.alive = true := h
  rw [dispatch_eq, outbox_submit? hcarried]
  rfl

/-- At most one call is put in the queue, whether the worker counts as alive or not. -/
theorem outbox_dispatch_cases (o : Outcome) (d : Dispatcher β (Outbox σ)) :
    (d.dispatch o).outbox = d.outbox ∨ ∃ r, (d.dispatch o).outbox = d.outbox.send r := by
  cases halive : d.worker.alive with
  | true =>
      rw [outbox_dispatch halive]
      cases d.callOf o with
      | none => exact .inl rfl
      | some c => exact .inr ⟨.call c, rfl⟩
  | false =>
      have hcarried : (d.carryOut o).worker.alive = false := halive
      rw [dispatch_eq, submit?_of_not_alive hcarried]
      exact .inl rfl

end Dispatcher

/-! ### Every sequence of moves ends -/

/-- How many steps the thread of a dispatcher has left, at most, counting those it leaves to the
worker. -/
def Stage.effort : Stage → Nat
  | running program => 4 * program.length + 2
  | waiting program => 4 * program.length + 3
  | joining => 1
  | finished _ => 0

namespace Threads

variable {β σ : Type} [EditingSurface β] [Services σ]

omit [EditingSurface β] [Services σ] in
/-- How many moves are left, at most. -/
def effort (t : Threads β σ) : Nat :=
  t.stage.effort + t.outbox.effort

theorem Moves.effort_lt {t u : Threads β σ} (h : Moves t u) : u.effort < t.effort := by
  cases h with
  | @dispatch o program d =>
      have hqueue : (d.dispatch o).outbox.effort ≤ d.outbox.effort + 1 := by
        obtain hsame | ⟨r, hsent⟩ := d.outbox_dispatch_cases o
        · rw [hsame]
          omega
        · rw [hsent]
          exact d.outbox.effort_send r
      simp only [effort, outbox, Stage.effort, List.length_cons]
      omega
  | @wait program d =>
      have hqueue := d.outbox.effort_send .flush
      simp only [effort, outbox, Stage.effort, List.length_cons, Dispatcher.outbox_withOutbox]
      omega
  | resume => simp [effort, outbox, Stage.effort]
  | giveUp =>
      simp only [effort, outbox, Stage.effort, Dispatcher.outbox_withOutbox]
      simp [Outbox.effort, Outbox.close]
  | join => simp [effort, outbox, Stage.effort]
  | work hturn =>
      have hless := hturn.effort_lt
      simp only [effort, outbox, Dispatcher.outbox_withOutbox]
      omega

/-- **No sequence of moves goes on forever.** -/
theorem wellFounded_moves : WellFounded fun t u : Threads β σ => Moves u t :=
  Subrelation.wf (fun h => Moves.effort_lt h) (measure effort).wf

/-! ### No state is stuck -/

omit [EditingSurface β] [Services σ] in
/-- What holds between the threads: the queue is open as long as the dispatcher is in use; a flush
that is waited for is the last in the queue; the end has come when the worker's thread has ended, and
a panic is raised if it panicked. -/
structure Orderly (t : Threads β σ) : Prop where
  tidy : t.outbox.Tidy
  isOpen_eq : t.outbox.isOpen = t.stage.inUse
  flushLast : ∀ program, t.stage = .waiting program →
    t.outbox.queue = [] ∨ t.outbox.queue.getLast? = some .flush
  joined : ∀ raised, t.stage = .finished raised →
    t.outbox.thread.receives = false ∧ raised = t.outbox.thread.hasBroken

omit [EditingSurface β] [Services σ] in
theorem orderly_start (program : List Instruction) (surface : β) (services : σ)
    (threshold : Binary64) : (start program surface services threshold).Orderly where
  tidy := ⟨nofun, nofun⟩
  isOpen_eq := rfl
  flushLast := nofun
  joined := nofun

theorem Moves.orderly {t u : Threads β σ} (h : Moves t u) (ht : t.Orderly) : u.Orderly := by
  cases h with
  | @dispatch o program d =>
      have hopen : d.outbox.isOpen = true := ht.isOpen_eq
      refine ⟨?_, ?_, nofun, nofun⟩
      · show (d.dispatch o).outbox.Tidy
        obtain hsame | ⟨r, hsent⟩ := d.outbox_dispatch_cases o
        · rw [hsame]
          exact ht.tidy
        · rw [hsent]
          exact ht.tidy.send r
      · show (d.dispatch o).outbox.isOpen = true
        obtain hsame | ⟨r, hsent⟩ := d.outbox_dispatch_cases o
        · rw [hsame, hopen]
        · rw [hsent, Outbox.isOpen_send, hopen]
  | @wait program d =>
      have hopen : d.outbox.isOpen = true := ht.isOpen_eq
      refine ⟨ht.tidy.send .flush, (d.outbox.isOpen_send .flush).trans hopen, ?_, nofun⟩
      intro _ _
      show (d.outbox.send .flush).queue = [] ∨ (d.outbox.send .flush).queue.getLast? = some .flush
      cases hthread : d.outbox.thread.receives with
      | false =>
          rw [Outbox.send_of_not_receives _ hthread]
          exact .inl (ht.tidy.drained hthread)
      | true =>
          rw [Outbox.queue_send _ hopen hthread]
          exact .inr List.getLast?_concat
  | resume => exact ⟨ht.tidy, ht.isOpen_eq, nofun, nofun⟩
  | giveUp => exact ⟨ht.tidy.close, rfl, nofun, nofun⟩
  | join hthread =>
      refine ⟨ht.tidy, ht.isOpen_eq, nofun, ?_⟩
      rintro _ ⟨⟩
      exact ⟨hthread, rfl⟩
  | @work stage d next hturn =>
      refine ⟨hturn.tidy, hturn.isOpen_eq.trans ht.isOpen_eq, ?_, ?_⟩
      · intro program hstage
        show next.queue = [] ∨ next.queue.getLast? = some .flush
        obtain hnone | ⟨r, hqueue⟩ := hturn.queue_cases
        · exact .inl hnone
        · have hlast : d.outbox.queue = [] ∨ d.outbox.queue.getLast? = some .flush :=
            ht.flushLast program hstage
          rw [hqueue] at hlast
          cases hrest : next.queue with
          | nil => exact .inl rfl
          | cons r' rest =>
              rw [hrest] at hlast
              simpa using hlast
      · -- a thread that was joined has no more turns
        intro raised hstage
        have hgone : d.outbox.thread.receives = false := (ht.joined raised hstage).1
        rw [hturn.receives] at hgone
        cases hgone

/-- **No state is stuck.**  Unless the worker was joined, one of the threads can step. -/
theorem Orderly.exists_move_or_finished {t : Threads β σ} (h : t.Orderly) :
    (∃ u, Moves t u) ∨ ∃ raised, t.stage = .finished raised := by
  obtain ⟨stage, d⟩ := t
  cases stage with
  | finished raised => exact .inr ⟨raised, rfl⟩
  | running program =>
      cases program with
      | nil => exact .inl ⟨_, .giveUp⟩
      | cons i program =>
          cases i with
          | dispatch o => exact .inl ⟨_, .dispatch⟩
          | wait => exact .inl ⟨_, .wait⟩
  | waiting program =>
      by_cases hflush : .flush ∈ d.outbox.queue
      · have hne : d.outbox.queue ≠ [] := List.ne_nil_of_mem hflush
        cases hthread : d.outbox.thread.receives with
        | false => exact absurd (h.tidy.drained hthread) hne
        | true =>
            obtain ⟨next, hturn⟩ := Outbox.exists_turn hthread (.inl hne)
            exact .inl ⟨_, .work hturn⟩
      · exact .inl ⟨_, .resume hflush⟩
  | joining =>
      cases hthread : d.outbox.thread.receives with
      | false => exact .inl ⟨_, .join hthread⟩
      | true =>
          have hclosed : d.outbox.isOpen = false := h.isOpen_eq
          obtain ⟨next, hturn⟩ := Outbox.exists_turn hthread (.inr hclosed)
          exact .inl ⟨_, .work hturn⟩

end Threads

/-! ### What reaches the services -/

namespace Outbox

/-- Services with fixed answers stay as they are. -/
theorem Turn.services_eq {o next : Outbox FixedServices} (h : o.Turn next) :
    next.services = o.services := by
  cases h <;> rfl

/-- The ledger after the first call in the queue, whether the service breaks down in it or not. -/
theorem ledger_of_call {o : Outbox FixedServices} {submitted : List Call} {c : Call}
    {rest : List Request} (hthread : o.thread = .working) (hqueue : o.queue = .call c :: rest)
    (ho : Ledger o.services.breaks submitted o.reached o.pending o.thread.hasBroken) :
    Ledger o.services.breaks submitted (o.reached ++ [c]) (rest.filterMap Request.call?)
      (o.services.breaks c) := by
  have hpending : o.pending = c :: rest.filterMap Request.call? := pending_of_cons hqueue
  rw [hthread, hpending] at ho
  exact ho.perform

/-- The ledger after a call was put in the queue, whether it got in or not. -/
theorem ledger_send {o : Outbox FixedServices} {breaks : Call → Bool} {submitted : List Call}
    (hopen : o.isOpen = true) (htidy : o.Tidy)
    (ho : Ledger breaks submitted o.reached o.pending o.thread.hasBroken) (c : Call) :
    let sent := o.send (.call c)
    Ledger breaks (submitted ++ [c]) sent.reached sent.pending sent.thread.hasBroken := by
  intro sent
  have hsubmitted := ho.submit c
  rw [show sent.reached = o.reached from o.reached_send _,
    show sent.thread = o.thread from o.thread_send _]
  cases hthread : o.thread.receives with
  | true =>
      rw [show sent.pending = o.pending ++ [c] from pending_send_call hopen hthread c]
      exact hsubmitted
  | false =>
      rw [htidy.hasBroken hopen hthread] at hsubmitted ⊢
      exact hsubmitted.of_broken sent.pending

/-- A turn of the worker keeps the ledger, whatever was submitted. -/
theorem Turn.ledger {o next : Outbox FixedServices} {submitted : List Call} (h : o.Turn next)
    (ho : Ledger o.services.breaks submitted o.reached o.pending o.thread.hasBroken) :
    Ledger o.services.breaks submitted next.reached next.pending next.thread.hasBroken := by
  cases h with
  | @call c rest hthread hqueue hreply =>
      have hmade := ledger_of_call hthread hqueue ho
      have hbreaks : o.services.breaks c = false := by
        simpa [FixedServices.breaks, Services.perform] using hreply
      rw [hbreaks] at hmade
      show Ledger _ _ (o.reached ++ [c]) (rest.filterMap Request.call?) o.thread.hasBroken
      rw [hthread]
      exact hmade
  | @breakDown c rest hthread hqueue hreply =>
      have hmade := ledger_of_call hthread hqueue ho
      have hbreaks : o.services.breaks c = true := by
        simpa [FixedServices.breaks, Services.perform] using hreply
      rw [hbreaks] at hmade
      exact hmade
  | @flush rest hthread hqueue =>
      have hpending : o.pending = rest.filterMap Request.call? := pending_of_cons hqueue
      rw [hpending] at ho
      exact ho
  | unwind hthread =>
      rw [hthread] at ho
      exact ho.of_broken []
  | finish hthread =>
      rw [hthread] at ho
      exact ho

end Outbox

namespace Dispatcher

variable {β : Type}

/-- The dispatcher without the queue, over services that always succeed. -/
def ideal (d : Dispatcher β (Outbox FixedServices)) : Dispatcher β FixedServices :=
  ⟨d.surface, ⟨{ d.outbox.services with reply := fun _ => .done }, d.worker.alive⟩, d.threshold,
    d.trace⟩

theorem ideal_withOutbox {o : Outbox FixedServices} {d : Dispatcher β (Outbox FixedServices)}
    (h : o.services = d.outbox.services) : (d.withOutbox o).ideal = d.ideal := by
  unfold ideal
  rw [outbox_withOutbox, h]
  rfl

theorem ideal_submit? (c : Option Call) (d : Dispatcher β (Outbox FixedServices)) :
    (d.submit? c).ideal = d.ideal.submit? c := by
  cases c with
  | none => rfl
  | some c =>
      cases halive : d.worker.alive with
      | true =>
          simp [submit?, submit, Worker.submit, note, ideal, outbox, halive, Services.perform]
      | false =>
          have hideal : d.ideal.worker.alive = false := halive
          rw [submit?_of_not_alive halive, submit?_of_not_alive hideal]

/-- **The thread of the dispatcher does what it would do if every service succeeded.** -/
theorem ideal_dispatch [EditingSurface β] (o : Outcome) (d : Dispatcher β (Outbox FixedServices)) :
    (d.dispatch o).ideal = d.ideal.dispatch o := by
  rw [dispatch_eq, dispatch_eq, ideal_submit?]
  rfl

end Dispatcher

namespace Threads

variable {β : Type} [EditingSurface β] {services : FixedServices}

omit [EditingSurface β] in
/-- The ledger between the two threads: what the dispatcher submitted, what reached the services and
what is in the queue. -/
structure Accounts (services : FixedServices) (t : Threads β FixedServices) : Prop where
  services_eq : t.outbox.services = services
  alive : t.dispatcher.worker.alive = true
  ledger : Ledger services.breaks t.dispatcher.calls t.outbox.reached t.outbox.pending
    t.outbox.thread.hasBroken

omit [EditingSurface β] in
theorem accounts_start (program : List Instruction) (surface : β) (threshold : Binary64) :
    Accounts services (start program surface services threshold) :=
  ⟨rfl, rfl, .nil⟩

theorem Moves.accounts {t u : Threads β FixedServices} (h : Moves t u) (ho : t.Orderly)
    (ht : Accounts services t) : Accounts services u := by
  cases h with
  | @dispatch o program d =>
      have halive : d.worker.alive = true := ht.alive
      have hopen : d.outbox.isOpen = true := ho.isOpen_eq
      have hledger : Ledger services.breaks d.calls d.outbox.reached d.outbox.pending
        d.outbox.thread.hasBroken := ht.ledger
      have hsent := d.outbox_dispatch halive o
      have hcalls := d.calls_dispatch halive o
      refine ⟨?_, (d.alive_dispatch_outbox o).trans halive, ?_⟩
      · show (d.dispatch o).outbox.services = services
        rw [hsent]
        cases d.callOf o with
        | none => exact ht.services_eq
        | some c => exact (d.outbox.services_send _).trans ht.services_eq
      · show Ledger _ (d.dispatch o).calls (d.dispatch o).outbox.reached
          (d.dispatch o).outbox.pending (d.dispatch o).outbox.thread.hasBroken
        rw [hsent, hcalls]
        cases d.callOf o with
        | none => simpa using hledger
        | some c => exact Outbox.ledger_send hopen ho.tidy hledger c
  | @wait program d =>
      refine ⟨(d.outbox.services_send _).trans ht.services_eq, ht.alive, ?_⟩
      show Ledger _ d.calls (d.outbox.send .flush).reached (d.outbox.send .flush).pending
        (d.outbox.send .flush).thread.hasBroken
      rw [Outbox.reached_send, Outbox.pending_send_flush, Outbox.thread_send]
      exact ht.ledger
  | resume => exact ⟨ht.services_eq, ht.alive, ht.ledger⟩
  | giveUp => exact ⟨ht.services_eq, ht.alive, ht.ledger⟩
  | join => exact ⟨ht.services_eq, ht.alive, ht.ledger⟩
  | @work stage d next hturn =>
      refine ⟨hturn.services_eq.trans ht.services_eq, ht.alive, ?_⟩
      have hservices : d.outbox.services = services := ht.services_eq
      have hledger : Ledger services.breaks d.calls d.outbox.reached d.outbox.pending
        d.outbox.thread.hasBroken := ht.ledger
      rw [← hservices] at hledger ⊢
      exact hturn.ledger hledger

/-- How the program would end if every service succeeded. -/
def foreseen (t : Threads β FixedServices) : Dispatcher β FixedServices :=
  t.dispatcher.ideal.dispatchAll (t.stage.remaining.filterMap Instruction.outcome?)

/-- No move changes how the program would end if every service succeeded. -/
theorem foreseen_of_moves {t u : Threads β FixedServices} (h : Moves t u) :
    u.foreseen = t.foreseen := by
  unfold foreseen
  cases h with
  | dispatch =>
      rw [Dispatcher.ideal_dispatch]
      rfl
  | @wait program d =>
      have hideal := Dispatcher.ideal_withOutbox (d.outbox.services_send .flush)
      rw [hideal]
      rfl
  | resume => rfl
  | giveUp => rfl
  | join => rfl
  | work hturn => rw [Dispatcher.ideal_withOutbox hturn.services_eq]

/-! ### Every schedule -/

/-- What holds of every state that can be reached. -/
theorem reaches_induction {t u : Threads β FixedServices} (h : ReflTransGen Moves t u)
    (ho : t.Orderly) (ht : Accounts services t) :
    u.Orderly ∧ Accounts services u ∧ u.foreseen = t.foreseen := by
  induction h with
  | refl => exact ⟨ho, ht, rfl⟩
  | tail _ hmove ih =>
      obtain ⟨ihorderly, ihaccounts, ihforeseen⟩ := ih
      exact ⟨hmove.orderly ihorderly, hmove.accounts ihorderly ihaccounts,
        (foreseen_of_moves hmove).trans ihforeseen⟩

omit [EditingSurface β] in
/-- When a wait is over, every call submitted was reached or comes after a breakdown. -/
theorem reached_of_waited {t : Threads β FixedServices} {program : List Instruction}
    (ho : t.Orderly) (ht : Accounts services t) (hstage : t.stage = .waiting program)
    (hflush : .flush ∉ t.outbox.queue) :
    t.outbox.reached = upTo services.breaks t.dispatcher.calls := by
  have hempty : t.outbox.queue = [] := by
    obtain hempty | hlast := ho.flushLast program hstage
    · exact hempty
    · exact absurd (List.mem_of_getLast? hlast) hflush
  have hledger := ht.ledger
  rw [Outbox.pending_of_nil hempty] at hledger
  exact hledger.eq_upTo

/-- **Failures stay with the worker.**  Outcomes are carried out over services with any replies,
whatever files are shown, wherever the cursor is.  What is done at once is what would be done if every
service succeeded, the calls are those that would be made then, cut after the first in which a service
breaks down, and a panic is raised exactly if such a call was reached.  On two threads, wherever the
program waits for the worker, no sequence of moves goes on forever, none stops before the program is
over and the worker was joined, and each ends with the same effects, calls and panic. -/
theorem run_containsFailures (program : List Instruction) (surface : β) (files : List Candidate)
    (current : Option FileHandle) (threshold : Binary64) (reply : Method → Reply) :
    let services := FixedServices.mk files current reply
    let outcomes := program.filterMap Instruction.outcome?
    let ideal := (Dispatcher.start surface (FixedServices.mk files current fun _ => .done)
      threshold).dispatchAll outcomes
    let d := (Dispatcher.start surface services threshold).dispatchAll outcomes
    Dispatcher.Contained services.breaks ideal d.inline d.calls d.isBroken ∧
      (WellFounded fun t u : Threads β FixedServices => Moves u t) ∧
      ∀ t, ReflTransGen Moves (start program surface services threshold) t →
        ((∃ u, Moves t u) ∨ ∃ raised, t.stage = .finished raised) ∧
        ∀ raised, t.stage = .finished raised →
          Dispatcher.Contained services.breaks ideal t.dispatcher.inline t.outbox.reached raised := by
  intro services outcomes ideal d
  have hfollows : Dispatcher.Follows d ideal :=
    (Dispatcher.Follows.start surface services threshold).dispatchAll outcomes
  have hservices : d.worker.services = services := Dispatcher.services_dispatchAll outcomes _
  refine ⟨hservices ▸ hfollows.contained, wellFounded_moves, ?_⟩
  intro t hreaches
  obtain ⟨horderly, haccounts, hforeseen⟩ := reaches_induction hreaches
    (orderly_start program surface services threshold) (accounts_start program surface threshold)
  refine ⟨horderly.exists_move_or_finished, ?_⟩
  intro raised hstage
  have hideal : t.dispatcher.ideal = ideal := by
    unfold foreseen at hforeseen
    rw [hstage] at hforeseen
    exact hforeseen
  have hinline : t.dispatcher.inline = ideal.inline := congrArg Dispatcher.inline hideal
  have hcalls : t.dispatcher.calls = ideal.calls := congrArg Dispatcher.calls hideal
  obtain ⟨hgone, hraised⟩ := horderly.joined raised hstage
  have hpending : t.outbox.pending = [] := Outbox.pending_of_nil (horderly.tidy.drained hgone)
  have hledger := haccounts.ledger
  rw [hpending, hcalls, ← hraised] at hledger
  exact ⟨hinline, hledger.eq_upTo, hledger.broken_iff⟩

/-- Logging out breaks down.  The call to run the code, dispatched while the panic is under way, is
lost with the queue; the wait is over when the queue is let go of, and the panic is raised again. -/
theorem run_containsFailures_panic :
    let services := FixedServices.mk [] none fun m => if m = .logOut then .broken else .done
    let program := [Instruction.dispatch (.command .logOut), .dispatch (.command .runCode), .wait,
      .dispatch (.edit .deleteWord)]
    let ideal := (Dispatcher.start (FixedSurface.mk ⟨1, 1⟩) (FixedServices.mk [] none fun _ => .done)
      defaultThreshold).dispatchAll (program.filterMap Instruction.outcome?)
    ∃ t, ReflTransGen Moves
        (start program (FixedSurface.mk ⟨1, 1⟩) services defaultThreshold) t ∧
      t.stage = .finished true ∧ ideal.calls = [.logOut, .run] ∧ t.outbox.reached = [.logOut] ∧
      Dispatcher.Contained services.breaks ideal t.dispatcher.inline t.outbox.reached true := by
  intro services program ideal
  have hreaches : ReflTransGen Moves
      (start program (FixedSurface.mk ⟨1, 1⟩) services defaultThreshold) _ :=
    .head .dispatch <| .head (.work (.breakDown rfl rfl rfl)) <| .head .dispatch <| .head .wait <|
      .head (.work (.unwind rfl)) <| .head (.resume nofun) <| .head .dispatch <| .head .giveUp <|
      .single (.join rfl)
  have hrun := run_containsFailures program (FixedSurface.mk ⟨1, 1⟩) [] none defaultThreshold
    fun m => if m = .logOut then .broken else .done
  exact ⟨_, hreaches, rfl, rfl, rfl, (hrun.2.2 _ hreaches).2 true rfl⟩

end Threads

end SpokenEditor
