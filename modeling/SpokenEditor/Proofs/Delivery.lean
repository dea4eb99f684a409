import SpokenEditor.Listening.Script
import SpokenEditor.Proofs.Settling
import SpokenEditor.Service.Fixed

/-! # What is accepted is heard

A listener over live sessions hands on what the channels accepted, each transcript once and in the
order in which it was accepted, until it is stopped or given up.

* `acted_actAll`: what the actions of a batch change and what they leave alone;
* `settle_of_live`: between two batches nothing stays unread;
* `batch_of_ready`, `batch_of_cancels`: one batch, with and without a cancellation;
* `run_delivers`: every script. -/

namespace SpokenEditor

/-- Whether the action ends the listener. -/
def Action.cancels : Action → Bool
  | stop | drop => true
  | _ => false

namespace Listener

variable {β σ : Type}

/-- The transcripts that wait on the channel. -/
def unread (l : Listener β σ) : List Text :=
  match l.phase with
  | .listening channel => channel.unread
  | _ => []

/-! ### What actions do -/

/-- What the actions, with these reactions, make of `l`. -/
structure Acted (actions : List Action) (reactions : List Reaction) (l next : Listener β σ) :
    Prop where
  frame : ∃ auth control phase, next = { l with auth := auth, control := control, phase := phase }
  starting : next.phase = .starting ↔ l.phase = .starting
  unread : next.unread = l.unread ++ accepted.taken actions reactions
  running : next.control = .running ↔
    l.control = .running ∧ ∀ a ∈ actions, a.cancels = false

theorem taken_cons (a : Action) (actions : List Action) (r : Reaction) (reactions : List Reaction) :
    accepted.taken (a :: actions) (r :: reactions) =
      accepted.taken [a] [r] ++ accepted.taken actions reactions := by
  cases a with
  | send t =>
      cases r with
      | delivery d => cases d <;> rfl
      | _ => rfl
  | _ => rfl

theorem acted_send (t : Text) (l : Listener β σ) :
    Acted [.send t] [.delivery (l.send t).1] l (l.send t).2 := by
  have hcontrol : (l.send t).2.control = l.control := by
    unfold send
    split <;> rfl
  have hrunning : (l.send t).2.control = .running ↔
      l.control = .running ∧ ∀ a ∈ [Action.send t], a.cancels = false := by
    rw [hcontrol, List.forall_mem_singleton]
    exact (and_iff_left rfl).symm
  by_cases hp : ∃ channel, l.phase = .listening channel
  · obtain ⟨channel, hp⟩ := hp
    have h : l.send t =
        ((channel.send t).1, { l with phase := .listening (channel.send t).2 }) := by
      rw [send, hp]
    rw [h] at hrunning ⊢
    refine ⟨⟨_, _, _, rfl⟩, by simp [hp], ?_, hrunning⟩
    have hl : l.unread = channel.unread := by rw [unread, hp]
    rw [hl]
    show (channel.send t).2.unread = _
    unfold Channel.send
    split
    · exact (List.append_nil _).symm
    split
    · exact (List.append_nil _).symm
    · rfl
  · have h : l.send t = (.closed, l) := by
      unfold send
      split
      · next channel hl => exact absurd ⟨channel, hl⟩ hp
      · rfl
    rw [h] at hrunning ⊢
    exact ⟨⟨_, _, _, rfl⟩, Iff.rfl, (List.append_nil _).symm, hrunning⟩

theorem acted_endSession (l : Listener β σ) : Acted [.endSession] [.ended] l l.endSession := by
  unfold endSession
  split
  · next channel hp =>
    refine ⟨⟨_, _, _, rfl⟩, by simp [hp], ?_, by simp [Action.cancels]⟩
    rw [unread, unread, hp]
    exact (List.append_nil _).symm
  · exact ⟨⟨_, _, _, rfl⟩, Iff.rfl, (List.append_nil _).symm, by simp [Action.cancels]⟩

theorem acted_ask (a : Action) (ha : a.cancels = true) (r : Reaction) {c : Control}
    (hc : c ≠ .running) (l : Listener β σ) : Acted [a] [r] l (l.ask c) := by
  have htaken : accepted.taken [a] [r] = [] := by
    cases a with
    | send t => cases ha
    | _ => rfl
  unfold ask
  split
  · next h =>
    refine ⟨⟨_, _, _, rfl⟩, Iff.rfl, ?_, by simp [h]⟩
    rw [htaken, List.append_nil]
  · refine ⟨⟨_, _, _, rfl⟩, Iff.rfl, ?_, by simp [hc, ha]⟩
    rw [htaken, List.append_nil]
    rfl

/-- What one action does. -/
theorem acted_act (a : Action) (l : Listener β σ) : Acted [a] [(l.act a).1] l (l.act a).2 := by
  cases a with
  | send t => exact acted_send t l
  | report status =>
      exact ⟨⟨_, _, _, rfl⟩, Iff.rfl, (List.append_nil _).symm, by simp [act, Action.cancels]⟩
  | endSession => exact acted_endSession l
  | closeAuth =>
      exact ⟨⟨_, _, _, rfl⟩, Iff.rfl, (List.append_nil _).symm, by simp [act, Action.cancels]⟩
  | stop => exact acted_ask .stop rfl .stopped (by decide) l
  | drop => exact acted_ask .drop rfl .dropped (by decide) l

/-- What the actions of a batch do. -/
theorem acted_actAll : ∀ (actions : List Action) (l : Listener β σ),
    Acted actions (l.actAll actions).1 l (l.actAll actions).2
  | [], l => ⟨⟨_, _, _, rfl⟩, Iff.rfl, (List.append_nil _).symm, by simp [actAll]⟩
  | a :: actions, l => by
      have h := acted_act a l
      have ih := acted_actAll actions (l.act a).2
      rw [actAll]
      dsimp only
      refine ⟨?_, ih.starting.trans h.starting, ?_, ?_⟩
      · obtain ⟨_, _, _, hl⟩ := h.frame
        obtain ⟨_, _, _, hn⟩ := ih.frame
        exact ⟨_, _, _, by rw [hn, hl]⟩
      · rw [ih.unread, h.unread, List.append_assoc, ← taken_cons]
      · rw [ih.running, h.running, List.forall_mem_singleton, List.forall_mem_cons, and_assoc]

/-! ### What a listener over live sessions does -/

/-- `HandsOn taken l next`: on the way from `l` to `next` the listener handed on exactly these
transcripts, in this order.  Before them it only reported to the session, and after them it only
began recognition sessions. -/
def HandsOn (taken : List Text) (l next : Listener β σ) : Prop :=
  ∃ (told : List Bool) (heard : List (Text × Mode)) (begun : List Nat),
    next.log = l.log ++ told.map .tell ++ heard.map (fun h => .hear h.1 h.2) ++ begun.map .start ∧
      heard.map Prod.fst = taken

/-- A listener that waits between two batches, or has ended without being stopped: nothing is unread
and all its sessions are live. -/
structure Ready (l : Listener β σ) : Prop where
  control : l.control = .running
  live : ∀ s ∈ l.recognizer.sessions, s = .live
  started : l.phase ≠ .starting
  unread : l.unread = []

theorem heard_eq_of_handsOn {taken : List Text} {l next : Listener β σ}
    (h : HandsOn taken l next) : next.heard.map Prod.fst = l.heard.map Prod.fst ++ taken := by
  obtain ⟨told, heard, begun, hlog, rfl⟩ := h
  have htold : (told.map Deed.tell).filterMap Deed.hear? = [] := by
    simp [List.filterMap_map, Deed.hear?]
  have hheard : (heard.map fun h => Deed.hear h.1 h.2).filterMap Deed.hear? = heard := by
    simp [List.filterMap_map, Function.comp_def, Deed.hear?]
  have hbegun : (begun.map Deed.start).filterMap Deed.hear? = [] := by
    simp [List.filterMap_map, Deed.hear?]
  rw [Listener.heard, hlog, List.filterMap_append, List.filterMap_append, List.filterMap_append,
    htold, hheard, hbegun, List.append_nil, List.append_nil, List.map_append]
  rfl

variable [EditingSurface β] [Services σ] {l : Listener β σ}

/-- A live session begins with nothing to read, and so the listener waits, unless it panicked. -/
theorem settle_of_starting_live {rest : List Source} (hp : l.phase = .starting)
    (hc : l.control = .running) (hf : l.CaughtUp) (hs : l.recognizer.sessions = .live :: rest) :
    l.settle = l.begin := by
  obtain ⟨n, hn⟩ : ∃ n, l.begin = n := ⟨_, rfl⟩
  have hbegin := begin_of_cons hs
  rw [hn] at hbegin
  have hc' : n.control = .running := by rw [hbegin]; exact hc
  have hf' : n.CaughtUp := by rw [hbegin]; exact hf
  have hidle : n.turn = none := by
    by_cases hplaces : Source.live.places l.settings.channelCapacity ≤ Channel.maxCapacity
    · rw [if_pos hplaces] at hbegin
      rw [turn_listening (by rw [hbegin]) hc', hf'.1, hf'.2]
      rfl
    · rw [if_neg hplaces] at hbegin
      exact turn_of_hasEnded (by rw [hbegin]; rfl)
  rw [settle_of_starting hp, hn, settle_of_idle hidle]

/-- Whether a session begins or not, nothing is unread then. -/
theorem ready_settle_of_starting (hp : l.phase = .starting) (hc : l.control = .running)
    (hf : l.CaughtUp) (hlive : ∀ s ∈ l.recognizer.sessions, s = .live) :
    Ready l.settle ∧ l.settle.log = l.log ++ [.start l.settings.channelCapacity] := by
  cases hs : l.recognizer.sessions with
  | nil =>
      rw [settle_of_starting hp, begin_of_nil hs, settle_of_hasEnded rfl]
      exact ⟨⟨hc, hlive, nofun, rfl⟩, rfl⟩
  | cons s rest =>
      obtain ⟨rfl, hrest⟩ := List.forall_mem_cons.1 (hs ▸ hlive)
      rw [settle_of_starting_live hp hc hf hs, begin_of_cons hs]
      split
      · exact ⟨⟨hc, hrest, nofun, rfl⟩, rfl⟩
      · exact ⟨⟨hc, hrest, nofun, rfl⟩, rfl⟩

/-- After a session that is over, at most another one begins. -/
theorem settle_goOn_of_live (hc : l.control = .running) (hf : l.CaughtUp)
    (hlive : ∀ s ∈ l.recognizer.sessions, s = .live) :
    Ready l.goOn.settle ∧ ∃ begun : List Nat, l.goOn.settle.log = l.log ++ begun.map .start := by
  unfold goOn
  split
  · obtain ⟨n, hn⟩ : ∃ n, { l with phase := .starting, restarts := l.restarts + 1 } = n := ⟨_, rfl⟩
    have hlog : n.log = l.log := by rw [← hn]
    obtain ⟨hready, hbegun⟩ := ready_settle_of_starting (l := n) (by rw [← hn])
      (by rw [← hn]; exact hc) (by rw [← hn]; exact hf) (by rw [← hn]; exact hlive)
    rw [hn]
    exact ⟨hready, [_], hlog ▸ hbegun⟩
  · rw [settle_of_hasEnded rfl]
    exact ⟨⟨hc, hlive, nofun, rfl⟩, [], (List.append_nil _).symm⟩

/-- What a running listener over live sessions makes of what is unread. -/
theorem settle_of_live (hp : l.phase ≠ .starting) (hc : l.control = .running)
    (hlive : ∀ s ∈ l.recognizer.sessions, s = .live) :
    Ready l.settle ∧ HandsOn l.unread l l.settle := by
  cases hl : l.phase with
  | starting => exact absurd hl hp
  | finished | panicked =>
      have hu : l.unread = [] := by rw [unread, hl]
      rw [settle_of_hasEnded (by rw [hl]; rfl), hu]
      exact ⟨⟨hc, hlive, hp, hu⟩, [], [], [], by simp, rfl⟩
  | listening channel =>
      have hu : l.unread = channel.unread := by rw [unread, hl]
      obtain ⟨r, hr⟩ : ∃ r, l.catchUp.drain channel = r := ⟨_, rfl⟩
      have hlog : r.log = l.log ++ l.news.toList.map .tell ++
          (l.catchUp.session.heardIn channel.unread).map fun h => .hear h.1 h.2 := by
        rw [← hr]
        rfl
      have hheard := Session.map_fst_heardIn channel.unread l.catchUp.session
      rw [settle_listening hl hc, hu, hr]
      split
      · have hready : Ready r := by
          rw [← hr]
          exact ⟨hc, hlive, nofun, rfl⟩
        exact ⟨hready, _, _, [], hlog.trans (List.append_nil _).symm, hheard⟩
      · have hf : r.CaughtUp := by
          rw [← hr]
          exact l.caughtUp_catchUp
        have hgo := settle_goOn_of_live (l := r) (by rw [← hr]; exact hc) hf
          (by rw [← hr]; exact hlive)
        obtain ⟨hready, begun, hbegun⟩ := hgo
        exact ⟨hready, _, _, begun, by rw [hbegun, hlog], hheard⟩

/-! ### One batch -/

/-- A batch without a cancellation: what was accepted is handed on, and nothing stays unread. -/
theorem batch_of_ready (h : Ready l) {actions : List Action}
    (hno : ∀ a ∈ actions, a.cancels = false) :
    Ready (l.batch actions).2 ∧
      HandsOn (accepted.taken actions (l.batch actions).1) l (l.batch actions).2 := by
  have hacted := acted_actAll actions l
  obtain ⟨n, hn⟩ : ∃ n, (l.actAll actions).2 = n := ⟨_, rfl⟩
  have hbatch : l.batch actions = ((l.actAll actions).1, n.settle) := by rw [← hn]; rfl
  rw [hn] at hacted
  have hunread : n.unread = accepted.taken actions (l.actAll actions).1 := by
    rw [hacted.unread, h.unread, List.nil_append]
  obtain ⟨auth, control, phase, hframe⟩ := hacted.frame
  have hlive : ∀ s ∈ n.recognizer.sessions, s = .live := by rw [hframe]; exact h.live
  have hlog : n.log = l.log := by rw [hframe]
  have hsettle := settle_of_live (fun hp => h.started (hacted.starting.1 hp))
    (hacted.running.2 ⟨h.control, hno⟩) hlive
  rw [hbatch, ← hunread]
  obtain ⟨hready, told, heard, begun, hdeeds, hheard⟩ := hsettle
  exact ⟨hready, told, heard, begun, by rw [hdeeds, hlog], hheard⟩

/-- A listener that was stopped, before a batch or in it, does nothing in that batch. -/
theorem batch_of_cancels (actions : List Action) (hp : l.phase ≠ .starting)
    (h : l.control ≠ .running ∨ ∃ a ∈ actions, a.cancels = true) :
    (l.batch actions).2.session = l.session ∧ (l.batch actions).2.log = l.log ∧
      (l.batch actions).2.phase ≠ .starting ∧ (l.batch actions).2.control ≠ .running := by
  have hacted := acted_actAll actions l
  obtain ⟨n, hn⟩ : ∃ n, (l.actAll actions).2 = n := ⟨_, rfl⟩
  have hbatch : (l.batch actions).2 = n.settle := by rw [← hn]; rfl
  rw [hn] at hacted
  have hcontrol : n.control ≠ .running := fun hc => by
    obtain ⟨hl, hno⟩ := hacted.running.1 hc
    obtain hl' | ⟨a, ha, hcancels⟩ := h
    · exact hl' hl
    · exact absurd ((hno a ha).symm.trans hcancels) nofun
  obtain ⟨auth, control, phase, hframe⟩ := hacted.frame
  -- The stop comes before everything else that is ready, so the channel is not even looked at.
  obtain ⟨ended, hended, hsettle⟩ :=
    settle_of_not_running (fun hs => hp (hacted.starting.1 hs)) hcontrol
  rw [hbatch, hsettle]
  refine ⟨?_, ?_, ?_, hcontrol⟩
  · rw [hframe]
  · rw [hframe]
  · rintro rfl
    cases hended

/-! ### Every script -/

/-- Without a cancellation every batch is handed on, by induction on the script. -/
theorem run_of_ready : ∀ (script : List (List Action)) {l : Listener β σ}, Ready l →
    (∀ actions ∈ script, ∀ a ∈ actions, a.cancels = false) →
    Ready (l.run script) ∧
      (l.run script).heard.map Prod.fst = l.heard.map Prod.fst ++ l.accepted script
  | [], l, h, _ => ⟨h, (List.append_nil _).symm⟩
  | actions :: script, l, h, hno => by
      rw [List.forall_mem_cons] at hno
      obtain ⟨hready, hhands⟩ := batch_of_ready h hno.1
      obtain ⟨hrun, hheard⟩ := run_of_ready script hready hno.2
      refine ⟨hrun, hheard.trans ?_⟩
      rw [heard_eq_of_handsOn hhands, accepted, List.append_assoc]

/-- A listener that was stopped does nothing in the course of a script, by induction on it. -/
theorem run_of_cancelled : ∀ (script : List (List Action)) {l : Listener β σ},
    l.phase ≠ .starting → l.control ≠ .running →
    (l.run script).session = l.session ∧ (l.run script).log = l.log
  | [], _, _, _ => ⟨rfl, rfl⟩
  | actions :: script, l, hp, hc => by
      obtain ⟨hsession, hlog, hp', hc'⟩ := batch_of_cancels actions hp (.inl hc)
      obtain ⟨ihsession, ihlog⟩ := run_of_cancelled script hp' hc'
      exact ⟨ihsession.trans hsession, ihlog.trans hlog⟩

/-- A batch that stops the listener is the last in which anything could have been done. -/
theorem run_of_cancels (hp : l.phase ≠ .starting) {actions : List Action}
    (h : ∃ a ∈ actions, a.cancels = true) (script : List (List Action)) :
    (l.run (actions :: script)).session = l.session ∧
      (l.run (actions :: script)).log = l.log := by
  obtain ⟨hsession, hlog, hp', hc'⟩ := batch_of_cancels actions hp (.inr h)
  obtain ⟨hsession', hlog'⟩ := run_of_cancelled script hp' hc'
  exact ⟨hsession'.trans hsession, hlog'.trans hlog⟩

/-- What is heard is a beginning of what is accepted, by induction on the script. -/
theorem heard_run_isPrefix : ∀ (script : List (List Action)) {l : Listener β σ}, Ready l →
    (l.run script).heard.map Prod.fst <+: l.heard.map Prod.fst ++ l.accepted script
  | [], l, _ => ⟨[], rfl⟩
  | actions :: script, l, h => by
      by_cases hcancels : ∃ a ∈ actions, a.cancels = true
      · have hlog := (run_of_cancels h.started hcancels script).2
        have hheard : (l.run (actions :: script)).heard = l.heard := by
          rw [Listener.heard, hlog]
          rfl
        rw [hheard]
        exact List.prefix_append _ _
      · have hno : ∀ a ∈ actions, a.cancels = false := fun a ha =>
          Bool.eq_false_iff.2 fun hc => hcancels ⟨a, ha, hc⟩
        obtain ⟨hready, hhands⟩ := batch_of_ready h hno
        have ih := heard_run_isPrefix script hready
        rw [heard_eq_of_handsOn hhands, List.append_assoc] at ih
        exact ih

/-- Between two batches a listener is not about to begin a session. -/
theorem phase_run_ne_starting : ∀ (script : List (List Action)) {l : Listener β σ},
    l.phase ≠ .starting → (l.run script).phase ≠ .starting
  | [], _, h => h
  | actions :: script, l, _ =>
      phase_run_ne_starting script (phase_settle_ne_starting (l.actAll actions).2)

/-- A listener over live sessions that has just begun. -/
theorem ready_start (session : Session β σ) (sessions : Nat) (ending : SpeechError)
    (settings : SpeechSettings) (status : Bool) :
    Ready (start session (.ofLive sessions ending) settings status) ∧
      (start session (.ofLive sessions ending) settings status).heard = [] := by
  obtain ⟨l, hl⟩ : ∃ l, initial session (.ofLive sessions ending) settings status = l := ⟨_, rfl⟩
  have hlive : ∀ s ∈ l.recognizer.sessions, s = .live := by
    rw [← hl]
    exact fun s hs => List.eq_of_mem_replicate hs
  obtain ⟨hready, hlog⟩ := ready_settle_of_starting (by rw [← hl]; rfl) (by rw [← hl]; rfl)
    (by rw [← hl]; exact ⟨rfl, rfl⟩) hlive
  rw [start, hl]
  refine ⟨hready, ?_⟩
  rw [Listener.heard, hlog, ← hl]
  rfl

/-- **Every transcript that is accepted is heard once, in order, until the listener is cancelled.**
For every script around a listener over live sessions, what is heard is a beginning of what the
channels accepted.  A batch without a cancellation, after such batches, hands on exactly what it
accepted, before another recognition session begins; so without cancellations everything is heard.
From a batch with a cancellation on, nothing is done at all: nothing is heard, no status is told, no
recognition session begins, and the session stays as it was before that batch. -/
theorem run_delivers (session : Session β σ) (sessions : Nat) (ending : SpeechError)
    (settings : SpeechSettings) (status : Bool) (script : List (List Action)) :
    let l := Listener.start session (.ofLive sessions ending) settings status
    (l.run script).heard.map Prod.fst <+: l.accepted script ∧
      ((∀ actions ∈ script, ∀ a ∈ actions, a.cancels = false) →
        (l.run script).heard.map Prod.fst = l.accepted script) ∧
      ∀ before actions after, script = before ++ actions :: after →
        ((∀ batch ∈ before ++ [actions], ∀ a ∈ batch, a.cancels = false) →
          HandsOn (accepted.taken actions ((l.run before).batch actions).1) (l.run before)
            (l.run (before ++ [actions]))) ∧
        ((∃ a ∈ actions, a.cancels = true) →
          (l.run script).session = (l.run before).session ∧
            (l.run script).log = (l.run before).log) := by
  intro l
  obtain ⟨hready, hheard⟩ := ready_start session sessions ending settings status
  refine ⟨?_, fun hno => ?_, ?_⟩
  · have h := heard_run_isPrefix script hready
    rw [hheard] at h
    exact h
  · have h := (run_of_ready script hready hno).2
    rw [hheard] at h
    exact h
  · rintro before actions after rfl
    refine ⟨fun hno => ?_, fun hcancels => ?_⟩
    · rw [List.forall_mem_append, List.forall_mem_singleton] at hno
      obtain ⟨hbefore, -⟩ := run_of_ready before hready hno.1
      rw [run_append]
      exact (batch_of_ready hbefore hno.2).2
    · rw [run_append]
      exact run_of_cancels (phase_run_ne_starting before hready.started) hcancels after

/-- A recognition session in which something is said, and then a batch that stops the listener. -/
theorem run_delivers_instance :
    let l := Listener.start (Session.start (.start (FixedSurface.mk ⟨1, 1⟩)
      (FixedServices.mk [] none fun _ => .done) defaultThreshold)) (.ofLive 2 .exhausted) .standard
      false
    let spoken : List Action := [.send ['a'], .report true, .send ['b'], .endSession]
    let stopped : List Action := [.send ['c'], .stop, .send ['d']]
    ((∀ batch ∈ [spoken], ∀ a ∈ batch, a.cancels = false) ∧
      l.accepted [spoken] = [['a'], ['b']] ∧
      (l.run [spoken]).heard.map Prod.fst = l.accepted [spoken] ∧
      HandsOn (accepted.taken spoken (l.batch spoken).1) l (l.run [spoken])) ∧
    (∃ a ∈ stopped, a.cancels = true) ∧
      (l.run [spoken, stopped]).session = (l.run [spoken]).session ∧
      (l.run [spoken, stopped]).log = (l.run [spoken]).log := by
  intro l spoken stopped
  have hspoken := run_delivers (Session.start (.start (FixedSurface.mk ⟨1, 1⟩)
    (FixedServices.mk [] none fun _ => .done) defaultThreshold)) 2 .exhausted .standard false [spoken]
  have hstopped := run_delivers (Session.start (.start (FixedSurface.mk ⟨1, 1⟩)
    (FixedServices.mk [] none fun _ => .done) defaultThreshold)) 2 .exhausted .standard false
    [spoken, stopped]
  have hno : ∀ batch ∈ [spoken], ∀ a ∈ batch, a.cancels = false := by decide
  have hstop : ∃ a ∈ stopped, a.cancels = true := ⟨.stop, by decide, rfl⟩
  have haccepted : l.accepted [spoken] = [['a'], ['b']] := by
    have hl : l = _ := settle_of_starting_live rfl rfl ⟨rfl, rfl⟩ rfl
    rw [hl]
    rfl
  exact ⟨⟨hno, haccepted, hspoken.2.1 hno, (hspoken.2.2 [] spoken [] rfl).1 hno⟩, hstop,
    (hstopped.2.2 [spoken] stopped [] rfl).2 hstop⟩

end Listener
end SpokenEditor
