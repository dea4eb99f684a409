import SpokenEditor.Listening.AuthFeed
import SpokenEditor.Listening.Recognizer
import SpokenEditor.Listening.Settings
import SpokenEditor.Session.Basic

/-!
# The listener

A listener feeds a session with the transcripts of a recognizer. It is a loop. It begins a
recognition session, and then each turn takes one thing that is ready, the first of these:

1. the listener was stopped or given up: it ends;
2. there is an authentication status that it has not seen: the session is told;
3. the feed of the status was closed: it is not looked at any more;
4. there is an unread transcript: the session hears it;
5. the channel is empty and closed: the recognition session is over, and another one begins as long
   as the settings and the recognizer let it.

If nothing is ready, the listener waits. If the recognizer panics when it is to begin a session, so
does the listener, and its session is lost. What it does is noted in a log, so that one can say in
which order things happened.

* `work_lt_of_turn`: a listener cannot go on turning for ever.
* `settle_of_turn`, `settle_of_idle`, `turn_settle`: a listener runs turn by turn until it has to
  wait or ends.
* `settle_of_hasEnded`, `settle_of_not_running`: a listener that has ended or was stopped does
  nothing more.
-/

namespace SpokenEditor

/-- Where a listener stands. -/
inductive Phase where
  /-- It is about to begin a recognition session. -/
  | starting
  /-- It takes what is ready, or waits. -/
  | listening (channel : Channel)
  | finished
  /-- The recognizer panicked. -/
  | panicked
  deriving DecidableEq, Repr

namespace Phase

/-- Whether the listener has ended, by itself or by a panic. -/
def hasEnded : Phase → Bool
  | starting | listening _ => false
  | finished | panicked => true

/-- Where a listener stands when it has asked the recognizer for a session. -/
def ofStart : Option (Except SpeechError Channel) → Phase
  | some (.ok channel) => .listening channel
  | some (.error _) => .finished
  | none => .panicked

end Phase

/-- What the owner of a listener asked it to do. -/
inductive Control where
  | running
  | stopped
  /-- The listener was given up together with its session. -/
  | dropped
  deriving DecidableEq, Repr

/-- Something that a listener does. -/
inductive Deed where
  /-- It asks the recognizer for a session on a channel of this capacity. -/
  | start (capacity : Nat)
  /-- It reports a status to the session. -/
  | tell (status : Bool)
  /-- It hands a transcript on to the session, which is in this mode. -/
  | hear (transcript : Text) (mode : Mode)
  deriving DecidableEq, Repr

namespace Deed

/-- The capacity asked for. -/
def start? : Deed → Option Nat
  | start capacity => some capacity
  | _ => none

/-- The transcript handed on, and the mode in which the session heard it. -/
def hear? : Deed → Option (Text × Mode)
  | hear t mode => some (t, mode)
  | _ => none

end Deed

/-- A listener with the session it feeds. -/
structure Listener (β σ : Type) where
  /-- The session; after a panic, what it was until then. -/
  session : Session β σ
  recognizer : Recognizer
  settings : SpeechSettings
  auth : AuthFeed
  /-- Whether it still looks at the feed of the status. -/
  followsAuth : Bool
  control : Control
  phase : Phase
  /-- How many sessions followed the first; the count begins again at zero after `2 ^ 32 - 1`. -/
  restarts : UInt32
  log : List Deed

namespace Listener

variable {β σ : Type}

/-- The capacity asked for at each attempt to begin a session. -/
def starts (l : Listener β σ) : List Nat :=
  l.log.filterMap Deed.start?

/-- The transcripts handed on, each with the mode in which the session heard it. -/
def heard (l : Listener β σ) : List (Text × Mode) :=
  l.log.filterMap Deed.hear?

/-- Whether the listener has ended; not known once it is given up. -/
def isFinished? (l : Listener β σ) : Option Bool :=
  match l.control with
  | .dropped => none
  | _ => some l.phase.hasEnded

/-- The session that a listener gives back when it has ended. A panic gives none back, and before
the end there is none to give back. -/
def join? (l : Listener β σ) : Option (Session β σ) :=
  match l.phase with
  | .finished => some l.session
  | _ => none

/-! ### One turn -/

/-- Note something done. -/
def note (d : Deed) (l : Listener β σ) : Listener β σ :=
  { l with log := l.log ++ [d] }

/-- End the listener. -/
def finish (l : Listener β σ) : Listener β σ :=
  { l with phase := .finished }

/-- Begin a recognition session. The listener ends if the recognizer has none to begin, and panics
with the recognizer. -/
def begin (l : Listener β σ) : Listener β σ :=
  let (begun, recognizer) := l.recognizer.start l.settings.channelCapacity
  { l.note (.start l.settings.channelCapacity) with
    recognizer
    phase := .ofStart begun }

/-- Report the latest authentication status to the session. -/
def syncAuth (l : Listener β σ) : Listener β σ :=
  { l.note (.tell l.auth.latest) with
    session := l.session.setAuthenticated l.auth.latest
    auth := l.auth.seen }

/-- Look at the feed of the status no more. -/
def ignoreAuth (l : Listener β σ) : Listener β σ :=
  { l with followsAuth := false }

/-- Go on with another recognition session if the settings let it. -/
def goOn (l : Listener β σ) : Listener β σ :=
  if l.settings.mayRestart l.restarts then
    { l with phase := .starting, restarts := l.restarts + 1 }
  else l.finish

variable [EditingSurface β] [Services σ]

/-- Hand a transcript on to the session. -/
def hear (t : Text) (l : Listener β σ) : Listener β σ :=
  { l.note (.hear t l.session.engine.mode) with session := (l.session.hear t).2 }

/-- The listener after one turn of its loop, unless it has ended or has to wait. -/
def turn (l : Listener β σ) : Option (Listener β σ) :=
  match l.phase with
  | .finished | .panicked => none
  | .starting => some l.begin
  | .listening channel =>
    if l.control ≠ .running then some l.finish
    else if l.followsAuth && l.auth.unseen then some l.syncAuth
    else if l.followsAuth && !l.auth.isOpen then some l.ignoreAuth
    else
      match channel.unread with
      | t :: rest => some { l.hear t with phase := .listening { channel with unread := rest } }
      | [] => if channel.isOpen then none else some l.goOn

/-! ### The loop comes to rest -/

/-- A bound on the turns that a listener can still make if nothing happens outside. -/
def work (l : Listener β σ) : Nat :=
  match l.phase with
  | .finished | .panicked => 0
  | .starting => ahead + 1
  | .listening channel => ahead + channel.unread.length + 2
where
  /-- The turns for what does not depend on the current recognition session. -/
  ahead : Nat :=
    Source.turns l.recognizer.sessions + l.auth.unseen.toNat + l.followsAuth.toNat

omit [EditingSurface β] [Services σ] in
theorem work_lt_of_begin {l : Listener β σ} (h : l.phase = .starting) : l.begin.work < l.work := by
  obtain ⟨_, recognizer, settings, auth, follows, _, _, _, _⟩ := l
  subst h
  obtain ⟨_ | ⟨s, rest⟩, ending⟩ := recognizer
  · simp [begin, Recognizer.start, Phase.ofStart, work]
  · simp only [begin, Recognizer.start, work, work.ahead, note, Source.turns]
    by_cases hplaces : s.places settings.channelCapacity ≤ Channel.maxCapacity
    · rw [Source.channel?_eq, if_pos hplaces]
      dsimp only [Phase.ofStart]
      omega
    · rw [Source.channel?_eq, if_neg hplaces]
      dsimp only [Phase.ofStart]
      omega

omit [EditingSurface β] [Services σ] in
theorem work_lt_of_goOn {l : Listener β σ} {channel : Channel} (h : l.phase = .listening channel) :
    l.goOn.work < l.work := by
  unfold goOn
  split
  · simp only [work, h, work.ahead]
    omega
  · simp only [finish, work, h]
    omega

/-- Every turn leaves less to do, so the loop comes to rest. -/
theorem work_lt_of_turn {l next : Listener β σ} (h : l.turn = some next) : next.work < l.work := by
  unfold turn at h
  split at h
  · cases h
  · cases h
  · next hp =>
    obtain rfl := Option.some.inj h
    exact work_lt_of_begin hp
  · next channel hp =>
    split at h
    · obtain rfl := Option.some.inj h
      simp only [finish, work, hp]
      omega
    split at h
    · next hu =>
      obtain rfl := Option.some.inj h
      rw [Bool.and_eq_true] at hu
      simp [syncAuth, note, work, work.ahead, hp, AuthFeed.seen, hu.2]
    split at h
    · next hc =>
      obtain rfl := Option.some.inj h
      rw [Bool.and_eq_true] at hc
      simp [ignoreAuth, work, work.ahead, hp, hc.1]
    split at h
    · next t rest hu =>
      obtain rfl := Option.some.inj h
      simp [hear, note, work, work.ahead, hp, hu]
    · split at h
      · cases h
      · obtain rfl := Option.some.inj h
        exact work_lt_of_goOn hp

/-- Run the listener until it has to wait or ends. -/
def settle (l : Listener β σ) : Listener β σ :=
  match _ : l.turn with
  | none => l
  | some next => settle next
termination_by l.work
decreasing_by exact work_lt_of_turn (by assumption)

/-- A listener that has told the session the status and is about to begin. -/
def initial (session : Session β σ) (recognizer : Recognizer) (settings : SpeechSettings)
    (status : Bool) : Listener β σ where
  session := session.setAuthenticated status
  recognizer := recognizer
  settings := settings
  auth := .ofStatus status
  followsAuth := true
  control := .running
  phase := .starting
  restarts := 0
  log := [.tell status]

/-- The listener that begins to feed the session, and runs until it has to wait or ends. -/
def start (session : Session β σ) (recognizer : Recognizer) (settings : SpeechSettings)
    (status : Bool) : Listener β σ :=
  settle (initial session recognizer settings status)

/-- A listener that has a turn to make makes it first. -/
theorem settle_of_turn {l next : Listener β σ} (h : l.turn = some next) :
    l.settle = next.settle := by
  rw [settle.eq_def]
  split
  · next hn => exact absurd (h.symm.trans hn) nofun
  · next hs => rw [Option.some.inj (h.symm.trans hs)]

/-- A listener without a turn to make stays as it is. -/
theorem settle_of_idle {l : Listener β σ} (h : l.turn = none) : l.settle = l := by
  rw [settle.eq_def]
  split
  · rfl
  · next hs => exact absurd (h.symm.trans hs) nofun

/-- A listener that came to rest has no turn to make. -/
theorem turn_settle (l : Listener β σ) : l.settle.turn = none := by
  cases h : l.turn with
  | none =>
    rw [settle_of_idle h]
    exact h
  | some next =>
    rw [settle_of_turn h]
    exact turn_settle next
termination_by l.work
decreasing_by exact work_lt_of_turn h

/-- A listener that came to rest is not about to begin a session. -/
theorem phase_settle_ne_starting (l : Listener β σ) : l.settle.phase ≠ .starting := by
  intro hp
  have h := turn_settle l
  rw [turn, hp] at h
  cases h

theorem turn_of_hasEnded {l : Listener β σ} (h : l.phase.hasEnded = true) : l.turn = none := by
  unfold turn
  split
  · rfl
  · rfl
  · next hp => rw [hp] at h; cases h
  · next hp => rw [hp] at h; cases h

/-- A listener that has ended stays as it is. -/
theorem settle_of_hasEnded {l : Listener β σ} (h : l.phase.hasEnded = true) : l.settle = l :=
  settle_of_idle (turn_of_hasEnded h)

/-- A listener that was stopped while it waited does nothing more but end. -/
theorem settle_of_not_running {l : Listener β σ} (hp : l.phase ≠ .starting)
    (h : l.control ≠ .running) :
    ∃ phase, phase.hasEnded = true ∧ l.settle = { l with phase := phase } := by
  cases hl : l.phase with
  | starting => exact absurd hl hp
  | finished | panicked =>
    have hend : l.phase.hasEnded = true := by rw [hl]; rfl
    exact ⟨l.phase, hend, settle_of_hasEnded hend⟩
  | listening channel =>
    have ht : l.turn = some l.finish := by
      rw [turn, hl]
      exact if_pos h
    have hsettle : l.finish.settle = l.finish := settle_of_hasEnded rfl
    exact ⟨.finished, rfl, (settle_of_turn ht).trans hsettle⟩

end Listener

end SpokenEditor
