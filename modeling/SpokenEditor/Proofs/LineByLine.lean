import SpokenEditor.Listening.Reading
import SpokenEditor.Proofs.Delivery
import SpokenEditor.Proofs.Halves
import SpokenEditor.Proofs.LineEnds
import SpokenEditor.Proofs.Replay
import Mathlib.Logic.Relation

/-! # Reading is replaying

Texts that are read line by line leave a session where it is when they are replayed.  What is read
differs from the texts in blanks, and blanks are not heard.  The channel between the reader and the
listener may be as small as it likes: nothing is lost on it, and nothing waits on it for good.  If it
is to be larger than a channel may be, both listeners panic, and nothing is heard.

* `Session.run_spoken`: a session hears what is said;
* `start_closed`: a listener with one session whose transcripts are all there, be it read
  (`start_ofLines`) or recorded (`start_recorded`);
* `turn_cases`: what a turn of an undisturbed listener is;
* `Moves.effort_lt`, `Orderly.exists_move_or_ended`: every sequence of moves ends, and only where
  the listener has ended;
* `Moves.keeps`: what was heard and what is still to be heard are together the lines that are read;
* `run_replaysLines`: both together. -/

namespace SpokenEditor

open Relation (ReflTransGen)

namespace Session

variable {β σ : Type} [EditingSurface β] [Services σ]

/-- Blanks around a phrase are not heard. -/
theorem hear_trim (t : Text) (s : Session β σ) : s.hear (Text.trim t) = s.hear t := by
  have hsame : Utterance.ofText (Text.trim t) = Utterance.ofText t := by
    rw [Utterance.ofText, Utterance.ofText, Text.trim_trim]
  rw [hear, hear, hsame]

/-- A phrase of blanks is not heard at all. -/
theorem hear_of_blank {t : Text} (h : Text.trim t = []) (s : Session β σ) : (s.hear t).2 = s := by
  have hempty : (Utterance.ofText t).isEmpty = true := List.isEmpty_iff.2 h
  refine hear_of_ignored ?_
  show (s.engine.mode.respond (.ofText t)).1 = .ignored
  rw [Mode.respond_of_isEmpty hempty]

/-- **A session hears what is said**, by induction on the phrases. -/
theorem run_spoken : ∀ (ts : List Text) (s : Session β σ),
    s.run (ts.map .heard) = s.run ((Text.spoken ts).map .heard)
  | [], _ => rfl
  | t :: ts, s => by
      have hfirst : s.run ((Text.spoken [t]).map .heard) = (s.hear t).2 := by
        by_cases hblank : Text.trim t = []
        · have hnone : Text.spoken [t] = [] := by simp [Text.spoken, hblank]
          rw [hnone, hear_of_blank hblank]
          rfl
        · have hone : Text.spoken [t] = [Text.trim t] := by simp [Text.spoken, hblank]
          rw [hone, ← hear_trim]
          rfl
      rw [Text.spoken_cons, List.map_append, run_append, hfirst, ← run_spoken ts]
      rfl

end Session

namespace Listener

variable {β σ : Type} {l next : Listener β σ}

theorem heard_begin (l : Listener β σ) : l.begin.heard = l.heard := by
  have hlog : l.begin.log = l.log ++ [.start l.settings.channelCapacity] := rfl
  rw [Listener.heard, hlog, List.filterMap_append]
  exact List.append_nil _

theorem unread_of_listening {channel : Channel} (h : l.phase = .listening channel) :
    l.unread = channel.unread := by
  rw [unread, h]

theorem work_endSession {channel : Channel} (hp : l.phase = .listening channel) :
    l.endSession.work = l.work := by
  rw [endSession, hp]
  simp only [work, hp]
  rfl

/-- A transcript is sent when the listener has an open channel with a place left. -/
theorem send_eq_sent_iff {t : Text} :
    l.send t = (.sent, next) ↔ ∃ channel, l.phase = .listening channel ∧ channel.isOpen = true ∧
      channel.unread.length < channel.capacity ∧
      next = { l with phase := .listening { channel with unread := channel.unread ++ [t] } } := by
  rw [send]
  constructor
  · intro h
    split at h
    · next channel hp =>
      obtain ⟨⟨delivery, sent⟩, hsend⟩ : ∃ x, channel.send t = x := ⟨_, rfl⟩
      rw [hsend] at h
      obtain ⟨rfl, rfl⟩ := Prod.mk.inj h
      obtain ⟨hopen, hroom, rfl⟩ := Channel.send_eq_sent_iff.1 hsend
      exact ⟨channel, hp, hopen, hroom, rfl⟩
    · cases h
  · rintro ⟨channel, hp, hopen, hroom, rfl⟩
    rw [hp]
    dsimp only
    rw [Channel.send_eq_sent_iff.2 ⟨hopen, hroom, rfl⟩]

variable [EditingSurface β] [Services σ]

/-- Without further sessions a listener that goes on ends. -/
theorem settle_goOn_of_nil (h : l.recognizer.sessions = []) :
    l.goOn.settle.phase = .finished ∧ l.goOn.settle.session = l.session := by
  unfold goOn
  split
  · obtain ⟨n, hn⟩ : ∃ n, { l with phase := .starting, restarts := l.restarts + 1 } = n := ⟨_, rfl⟩
    have hnone : n.recognizer.sessions = [] := by rw [← hn]; exact h
    rw [hn, settle_of_starting (by rw [← hn]), begin_of_nil hnone, settle_of_hasEnded rfl, ← hn]
    exact ⟨rfl, rfl⟩
  · rw [settle_of_hasEnded rfl]
    exact ⟨rfl, rfl⟩

/-- A session whose transcripts are all there is replayed, and no other follows, unless it asks for
too many places. -/
theorem start_closed (session : Session β σ) {s : Source} (hclosed : s.isLive = false)
    {settings : SpeechSettings} {opens : Prop} [Decidable opens]
    (hopens : s.places settings.channelCapacity ≤ Channel.maxCapacity ↔ opens)
    (ending : SpeechError) (status : Bool) :
    let l := start session ⟨[s], ending⟩ settings status
    l.phase.hasEnded = true ∧
      l.join? = if opens then
        some ((session.setAuthenticated status).run (s.transcripts.map .heard)) else none := by
  intro l
  obtain ⟨n, hn⟩ : ∃ n, initial session ⟨[s], ending⟩ settings status = n := ⟨_, rfl⟩
  by_cases hplaces : s.places settings.channelCapacity ≤ Channel.maxCapacity
  · have hl : l = (n.replay s []).goOn.settle := by
      rw [← hn]
      exact settle_of_starting_closed rfl rfl ⟨rfl, rfl⟩ rfl hclosed hplaces
    obtain ⟨hphase, hsession⟩ := settle_goOn_of_nil (l := n.replay s []) rfl
    rw [if_pos (hopens.1 hplaces), hl, join?, hphase]
    refine ⟨rfl, ?_⟩
    rw [hsession, ← hn]
    rfl
  · have hl : l = _ := settle_of_starting_panicked rfl rfl hplaces
    rw [if_neg (mt hopens.2 hplaces), hl]
    exact ⟨rfl, rfl⟩

/-- Lines that are read are replayed, unless there is no channel of the capacity of the settings. -/
theorem start_ofLines (session : Session β σ) (bytes : List UInt8) (settings : SpeechSettings)
    (status : Bool) :
    let l := start session (.ofLines bytes) settings status
    l.phase.hasEnded = true ∧
      l.join? = if settings.channelCapacity ≤ Channel.maxCapacity then
        some ((session.setAuthenticated status).run ((Text.textLines bytes).map .heard))
      else none :=
  start_closed session rfl Channel.max_one_le_maxCapacity_iff .exhausted status

/-- Texts that are replayed also ask for a place each. -/
theorem start_recorded (session : Session β σ) (ts : List Text) (ending : SpeechError)
    (settings : SpeechSettings) (status : Bool) :
    let l := start session (.replaying [ts] ending) settings status
    l.phase.hasEnded = true ∧
      l.join? = if ts.length ≤ Channel.maxCapacity ∧
          settings.channelCapacity ≤ Channel.maxCapacity then
        some ((session.setAuthenticated status).run (ts.map .heard)) else none := by
  have hopens : (Source.recorded ts).places settings.channelCapacity ≤ Channel.maxCapacity ↔
      ts.length ≤ Channel.maxCapacity ∧ settings.channelCapacity ≤ Channel.maxCapacity :=
    Nat.max_le.trans <| (and_congr_left' Channel.max_one_le_maxCapacity_iff).trans and_comm
  exact start_closed session rfl hopens ending status

/-- A turn of a listener that was not stopped and has seen the status: it begins a session, hands the
next transcript on, or goes on behind a session that is over. -/
theorem turn_cases (hc : l.control = .running) (hf : l.CaughtUp) (h : l.turn = some next) :
    (l.phase = .starting ∧ next = l.begin) ∨
      (∃ channel t rest, l.phase = .listening channel ∧ channel.unread = t :: rest ∧
        next = { l.hear t with phase := .listening { channel with unread := rest } }) ∨
      ∃ channel, l.phase = .listening channel ∧ channel.unread = [] ∧ channel.isOpen = false ∧
        next = l.goOn := by
  cases hp : l.phase with
  | finished | panicked =>
      rw [turn_of_hasEnded (by rw [hp]; rfl)] at h
      cases h
  | starting =>
      rw [turn, hp] at h
      exact .inl ⟨rfl, (Option.some.inj h).symm⟩
  | listening channel =>
      rw [turn_listening hp hc, hf.1, hf.2] at h
      right
      cases hu : channel.unread with
      | cons t rest =>
          rw [hu] at h
          exact .inl ⟨channel, t, rest, rfl, hu, (Option.some.inj h).symm⟩
      | nil =>
          rw [hu] at h
          cases ho : channel.isOpen with
          | true =>
              rw [ho] at h
              cases h
          | false =>
              rw [ho] at h
              exact .inr ⟨channel, rfl, hu, ho, (Option.some.inj h).symm⟩

theorem heard_hear (t : Text) (l : Listener β σ) :
    (l.hear t).heard.map Prod.fst = l.heard.map Prod.fst ++ [t] := by
  rw [Listener.heard, hear, note, List.filterMap_append, List.map_append]
  rfl

end Listener

namespace Reading

variable {β σ : Type} {r u : Reading β σ} {l : Listener β σ}
  {lines : Option (List (List UInt8))} {channel : Channel} {settings : SpeechSettings}

/-- How many moves are left, at most: a line that was not handed over will still have to be heard. -/
def effort (r : Reading β σ) : Nat :=
  r.listener.work + r.lines.elim 0 fun lines => 2 * lines.length + 1

/-- What holds between the two: the listener was not stopped and has seen the status; the channel is
open as long as the reader reads, and it has a place; no other session follows the one that is read.
And where the listener stands tells whether there is a channel of the capacity of the settings. -/
structure Orderly (settings : SpeechSettings) (r : Reading β σ) : Prop where
  settings_eq : r.listener.settings = settings
  control : r.listener.control = .running
  caughtUp : r.listener.CaughtUp
  ending : r.listener.recognizer.ending = .exhausted
  starting : r.listener.phase = .starting →
    (r.listener.recognizer.sessions = [.live] ∧ r.lines.isSome = true ∧ r.listener.heard = []) ∨
      (r.listener.recognizer.sessions = [] ∧ r.lines = none ∧
        settings.channelCapacity ≤ Channel.maxCapacity)
  listening : ∀ channel, r.listener.phase = .listening channel →
    r.listener.recognizer.sessions = [] ∧ channel.isOpen = r.lines.isSome ∧ 0 < channel.capacity ∧
      settings.channelCapacity ≤ Channel.maxCapacity
  finished : r.listener.phase = .finished →
    r.listener.recognizer.sessions = [] ∧ r.lines = none ∧
      settings.channelCapacity ≤ Channel.maxCapacity
  panicked : r.listener.phase = .panicked →
    r.listener.recognizer.sessions = [] ∧ r.listener.heard = [] ∧
      ¬settings.channelCapacity ≤ Channel.maxCapacity

theorem orderly_start (session : Session β σ) (bytes : List UInt8) (settings : SpeechSettings)
    (status : Bool) : (start session bytes settings status).Orderly settings where
  settings_eq := rfl
  control := rfl
  caughtUp := ⟨rfl, rfl⟩
  ending := rfl
  starting _ := .inl ⟨rfl, rfl, rfl⟩
  listening := nofun
  finished := nofun
  panicked := nofun

theorem Orderly.begin (h : Orderly settings ⟨l, lines⟩) (hp : l.phase = .starting) :
    Orderly settings ⟨l.begin, lines⟩ := by
  have hheard := l.heard_begin
  have hcapacity : Source.live.places l.settings.channelCapacity ≤ Channel.maxCapacity ↔
      settings.channelCapacity ≤ Channel.maxCapacity := by
    rw [show l.settings = settings from h.settings_eq]
    exact Channel.max_one_le_maxCapacity_iff
  obtain ⟨hlive, hlines, hnothing⟩ | ⟨hnone, hlines, hopens⟩ := h.starting hp
  · rw [show l.heard = [] from hnothing] at hheard
    rw [Listener.begin_of_cons hlive] at hheard ⊢
    split
    · next hplaces =>
      refine ⟨h.settings_eq, h.control, h.caughtUp, h.ending, nofun, ?_, nofun, nofun⟩
      rintro _ ⟨⟩
      exact ⟨rfl, hlines.symm, Nat.lt_of_lt_of_le Nat.one_pos (Nat.le_max_left _ _),
        hcapacity.1 hplaces⟩
    · next hplaces =>
      exact ⟨h.settings_eq, h.control, h.caughtUp, h.ending, nofun, nofun, nofun,
        fun _ => ⟨rfl, hheard, fun hopens => hplaces (hcapacity.2 hopens)⟩⟩
  · rw [Listener.begin_of_nil hnone]
    exact ⟨h.settings_eq, h.control, h.caughtUp, h.ending, nofun, nofun,
      fun _ => ⟨hnone, hlines, hopens⟩, nofun⟩

theorem Orderly.goOn (h : Orderly settings ⟨l, lines⟩) (hp : l.phase = .listening channel)
    (hclosed : channel.isOpen = false) : Orderly settings ⟨l.goOn, lines⟩ := by
  obtain ⟨hnone, hopen, -, hopens⟩ := h.listening channel hp
  have hlines : lines = none := by
    rw [hclosed] at hopen
    exact Option.isNone_iff_eq_none.1 (Option.isSome_eq_false_iff.1 hopen.symm)
  rw [Listener.goOn]
  split
  · exact ⟨h.settings_eq, h.control, h.caughtUp, h.ending, fun _ => .inr ⟨hnone, hlines, hopens⟩,
      nofun, nofun, nofun⟩
  · exact ⟨h.settings_eq, h.control, h.caughtUp, h.ending, nofun, nofun,
      fun _ => ⟨hnone, hlines, hopens⟩, nofun⟩

theorem Orderly.endSession (h : Orderly settings ⟨l, lines⟩) (hp : l.phase = .listening channel) :
    Orderly settings ⟨l.endSession, none⟩ := by
  obtain ⟨hnone, -, hplace, hopens⟩ := h.listening channel hp
  rw [Listener.endSession, hp]
  refine ⟨h.settings_eq, h.control, h.caughtUp, h.ending, nofun, ?_, nofun, nofun⟩
  rintro _ ⟨⟩
  exact ⟨hnone, rfl, hplace, hopens⟩

/-- No other session follows the one that is read. -/
theorem Orderly.start_eq (h : r.Orderly settings) (hp : r.listener.phase ≠ .starting)
    (capacity : Nat) : (r.listener.recognizer.start capacity).1 = some (.error .exhausted) := by
  have hnone : r.listener.recognizer.sessions = [] := by
    cases hphase : r.listener.phase with
    | starting => exact absurd hphase hp
    | listening channel => exact (h.listening channel hphase).1
    | finished => exact (h.finished hphase).1
    | panicked => exact (h.panicked hphase).1
  rw [Recognizer.start_of_nil hnone, h.ending]

/-- The transcripts that are still to be heard: those on the channel and those that are not read. -/
def ahead (r : Reading β σ) : List Text :=
  r.listener.unread ++ Text.decodedLines (r.lines.getD [])

/-- A listener that has ended has nothing ahead. -/
theorem Orderly.ahead_of_finished (h : r.Orderly settings) (hp : r.listener.phase = .finished) :
    r.ahead = [] := by
  have hunread : r.listener.unread = [] := by rw [Listener.unread, hp]
  rw [ahead, hunread, (h.finished hp).2.1]
  rfl

variable [EditingSurface β] [Services σ]

/-! ### Every sequence of moves ends -/

theorem Moves.effort_lt (h : Moves r u) : u.effort < r.effort := by
  cases h with
  | turn hturn => exact Nat.add_lt_add_right (Listener.work_lt_of_turn hturn) _
  | handOver hline hsend =>
      obtain ⟨channel, hp, -, -, rfl⟩ := Listener.send_eq_sent_iff.1 hsend
      simp only [effort, Listener.work, hp, Option.elim_some, List.length_append,
        List.length_cons, List.length_nil, Listener.work.ahead]
      omega
  | giveUp hp hline =>
      simp only [effort, Listener.work_endSession hp, Option.elim_some, Option.elim_none]
      omega
  | finish hp =>
      simp only [effort, Listener.work_endSession hp, Option.elim_some, Option.elim_none]
      omega

/-- **No sequence of moves goes on forever.** -/
theorem wellFounded_moves : WellFounded fun r u : Reading β σ => Moves u r :=
  Subrelation.wf (fun h => Moves.effort_lt h) (measure effort).wf

/-! ### No state is stuck -/

theorem Moves.orderly (h : Moves r u) (hr : r.Orderly settings) : u.Orderly settings := by
  cases h with
  | turn hturn =>
      obtain ⟨hp, rfl⟩ | ⟨channel, t, rest, hp, -, rfl⟩ | ⟨channel, hp, -, hclosed, rfl⟩ :=
        Listener.turn_cases hr.control hr.caughtUp hturn
      · exact hr.begin hp
      · refine ⟨hr.settings_eq, hr.control, hr.caughtUp, hr.ending, nofun, ?_, nofun, nofun⟩
        rintro _ ⟨⟩
        exact hr.listening channel hp
      · exact hr.goOn hp hclosed
  | handOver hline hsend =>
      obtain ⟨channel, hp, -, -, rfl⟩ := Listener.send_eq_sent_iff.1 hsend
      refine ⟨hr.settings_eq, hr.control, hr.caughtUp, hr.ending, nofun, ?_, nofun, nofun⟩
      rintro _ ⟨⟩
      exact hr.listening channel hp
  | giveUp hp _ => exact hr.endSession hp
  | finish hp => exact hr.endSession hp

/-- **No state is stuck.**  Unless the listener has ended, it or the reader can step. -/
theorem Orderly.exists_move_or_ended (h : r.Orderly settings) :
    (∃ u, Moves r u) ∨ r.listener.phase.hasEnded = true := by
  obtain ⟨l, lines⟩ := r
  cases hp : l.phase with
  | finished | panicked => exact .inr rfl
  | starting =>
      have hturn : l.turn = some l.begin := by rw [Listener.turn, hp]
      exact .inl ⟨_, .turn hturn⟩
  | listening channel =>
      left
      obtain ⟨-, hopen, hplace, -⟩ := h.listening channel hp
      have hturn := Listener.turn_listening hp h.control
      rw [h.caughtUp.1, h.caughtUp.2] at hturn
      cases hu : channel.unread with
      | cons t rest =>
          rw [hu] at hturn
          exact ⟨_, .turn hturn⟩
      | nil =>
          -- the listener waits for the reader only if the channel is open, and then the reader is
          -- there and finds a place
          cases lines with
          | none =>
              rw [hu, show channel.isOpen = false from hopen] at hturn
              exact ⟨_, .turn hturn⟩
          | some lines =>
              cases lines with
              | nil => exact ⟨_, .finish hp⟩
              | cons line lines =>
                  cases hline : Text.decode line with
                  | none => exact ⟨_, .giveUp hp hline⟩
                  | some t =>
                      have hroom : channel.unread.length < channel.capacity := by
                        rw [hu]
                        exact hplace
                      exact ⟨_, .handOver hline (Listener.send_eq_sent_iff.2
                        ⟨channel, hp, hopen, hroom, rfl⟩)⟩

/-! ### Nothing is lost -/

/-- `Keeps r u`: what was heard and what is still to be heard are the same together, and so is the
session when all of it was heard. -/
structure Keeps (r u : Reading β σ) : Prop where
  heard : u.listener.heard.map Prod.fst ++ u.ahead = r.listener.heard.map Prod.fst ++ r.ahead
  session : u.listener.session.run (u.ahead.map .heard) =
    r.listener.session.run (r.ahead.map .heard)

/-- A session begins with nothing on its channel. -/
theorem Orderly.keeps_begin (h : Orderly settings ⟨l, lines⟩) (hp : l.phase = .starting) :
    Keeps ⟨l, lines⟩ ⟨l.begin, lines⟩ := by
  have hbefore : l.unread = [] := by rw [Listener.unread, hp]
  have hafter : l.begin.unread = [] := by
    obtain ⟨hlive, -⟩ | ⟨hnone, -⟩ := h.starting hp
    · rw [Listener.begin_of_cons hlive]
      split <;> rfl
    · rw [Listener.begin_of_nil hnone]
      rfl
  have hahead : ahead ⟨l.begin, lines⟩ = ahead ⟨l, lines⟩ := by
    rw [ahead, ahead, hbefore, hafter]
  refine ⟨?_, ?_⟩
  · rw [hahead]
    exact congrArg (· ++ _) (congrArg (List.map Prod.fst) l.heard_begin)
  · rw [hahead]
    rfl

/-- What the listener hears was the first on its channel. -/
theorem keeps_hear {t : Text} {rest : List Text} (hp : l.phase = .listening channel)
    (hu : channel.unread = t :: rest) :
    Keeps ⟨l, lines⟩
      ⟨{ l.hear t with phase := .listening { channel with unread := rest } }, lines⟩ := by
  have hahead : ahead ⟨l, lines⟩ = t :: (rest ++ Text.decodedLines (lines.getD [])) := by
    rw [ahead, Listener.unread_of_listening hp, hu, List.cons_append]
  refine ⟨?_, ?_⟩
  · rw [hahead, List.append_cons]
    exact congrArg (· ++ _) (l.heard_hear t)
  · rw [hahead]
    rfl

/-- Behind a session that is over, nothing is left on the channel. -/
theorem keeps_goOn (hp : l.phase = .listening channel) (hu : channel.unread = []) :
    Keeps ⟨l, lines⟩ ⟨l.goOn, lines⟩ := by
  have hbefore : l.unread = [] := (Listener.unread_of_listening hp).trans hu
  rw [Listener.goOn]
  split
  · exact ⟨by rw [ahead, ahead, hbefore]; rfl, by rw [ahead, ahead, hbefore]; rfl⟩
  · exact ⟨by rw [ahead, ahead, hbefore]; rfl, by rw [ahead, ahead, hbefore]; rfl⟩

/-- The end of the reader leaves what is on the channel. -/
theorem keeps_endSession (hp : l.phase = .listening channel)
    (hlines : Text.decodedLines (lines.getD []) = []) :
    Keeps ⟨l, lines⟩ ⟨l.endSession, none⟩ := by
  have hahead : ahead ⟨l.endSession, none⟩ = ahead ⟨l, lines⟩ := by
    have hunread : l.endSession.unread = channel.unread := by
      rw [Listener.endSession, hp]
      rfl
    rw [ahead, ahead, hunread, Listener.unread_of_listening hp, hlines]
    rfl
  have hsame : l.endSession.heard = l.heard ∧ l.endSession.session = l.session := by
    rw [Listener.endSession, hp]
    exact ⟨rfl, rfl⟩
  exact ⟨by rw [hahead, hsame.1], by rw [hahead, hsame.2]⟩

/-- **A move loses nothing and adds nothing.** -/
theorem Moves.keeps (h : Moves r u) (hr : r.Orderly settings) : Keeps r u := by
  cases h with
  | turn hturn =>
      obtain ⟨hp, rfl⟩ | ⟨channel, t, rest, hp, hu, rfl⟩ | ⟨channel, hp, hu, -, rfl⟩ :=
        Listener.turn_cases hr.control hr.caughtUp hturn
      · exact hr.keeps_begin hp
      · exact keeps_hear hp hu
      · exact keeps_goOn hp hu
  | @handOver l next line lines t hline hsend =>
      obtain ⟨channel, hp, -, -, rfl⟩ := Listener.send_eq_sent_iff.1 hsend
      have hahead : ahead ⟨l, some (line :: lines)⟩ =
          channel.unread ++ [t] ++ Text.decodedLines lines := by
        rw [ahead, Listener.unread_of_listening hp, Option.getD_some, Text.decodedLines, hline,
          List.append_assoc]
        rfl
      exact ⟨by rw [hahead]; rfl, by rw [hahead]; rfl⟩
  | giveUp hp hline =>
      refine keeps_endSession hp ?_
      rw [Option.getD_some, Text.decodedLines, hline]
  | finish hp => exact keeps_endSession hp rfl

/-! ### Every sequence of moves -/

/-- What holds of every state that can be reached. -/
theorem reaches_induction (h : ReflTransGen Moves r u) (hr : r.Orderly settings) :
    u.Orderly settings ∧ Keeps r u := by
  induction h with
  | refl => exact ⟨hr, rfl, rfl⟩
  | tail _ hmove ih =>
      obtain ⟨ihorderly, ihkeeps⟩ := ih
      have hkeeps := hmove.keeps ihorderly
      exact ⟨hmove.orderly ihorderly, hkeeps.heard.trans ihkeeps.heard,
        hkeeps.session.trans ihkeeps.session⟩

/-- **The listener comes to its end**, by induction on the moves that are left. -/
theorem Orderly.exists_ended {r : Reading β σ} (h : r.Orderly settings) :
    ∃ u, ReflTransGen Moves r u ∧ u.listener.phase.hasEnded = true := by
  obtain ⟨u, hmove⟩ | hend := h.exists_move_or_ended
  · have hless := hmove.effort_lt
    obtain ⟨v, hreaches, hend⟩ := (hmove.orderly h).exists_ended
    exact ⟨v, .head hmove hreaches, hend⟩
  · exact ⟨r, .refl, hend⟩
termination_by r.effort

variable {session : Session β σ} {bytes : List UInt8} {status : Bool}

/-- What was heard and what the session is, on the way and in the end. -/
theorem heard_of_reaches (h : ReflTransGen Moves (start session bytes settings status) r) :
    r.listener.heard.map Prod.fst ++ r.ahead = Text.textLines bytes ∧
      r.listener.session.run (r.ahead.map .heard) =
        (session.setAuthenticated status).run ((Text.textLines bytes).map .heard) := by
  obtain ⟨-, hheard, hsession⟩ := reaches_induction h (orderly_start session bytes settings status)
  exact ⟨hheard, hsession⟩

/-- In the end everything was heard, or nothing was because there is no channel. -/
theorem ended_of_reaches (h : ReflTransGen Moves (start session bytes settings status) r)
    (hend : r.listener.phase.hasEnded = true) :
    r.listener.heard.map Prod.fst =
        (if settings.channelCapacity ≤ Channel.maxCapacity then Text.textLines bytes else []) ∧
      r.listener.join? =
        if settings.channelCapacity ≤ Channel.maxCapacity then
          some ((session.setAuthenticated status).run ((Text.textLines bytes).map .heard))
        else none := by
  have horderly := (reaches_induction h (orderly_start session bytes settings status)).1
  cases hp : r.listener.phase with
  | starting | listening _ =>
      rw [hp] at hend
      cases hend
  | finished =>
      obtain ⟨-, -, hopens⟩ := horderly.finished hp
      obtain ⟨hheard, hsession⟩ := heard_of_reaches h
      rw [horderly.ahead_of_finished hp] at hheard hsession
      rw [if_pos hopens, if_pos hopens, Listener.join?, hp]
      exact ⟨(List.append_nil _).symm.trans hheard, congrArg some hsession⟩
  | panicked =>
      obtain ⟨-, hnothing, hopens⟩ := horderly.panicked hp
      rw [if_neg hopens, if_neg hopens, Listener.join?, hp, hnothing]
      exact ⟨rfl, rfl⟩

end Reading

/-- The lines are received in the only session, unless its channel is too large. -/
theorem Recognizer.receive?_ofLines (bytes : List UInt8) (capacity n : Nat) :
    (Recognizer.ofLines bytes).receive? capacity (n + 1) =
      if capacity ≤ Channel.maxCapacity then
        some (.ok (Text.textLines bytes) :: List.replicate n (.error .exhausted))
      else none := by
  have hrest : ∀ n, (Recognizer.mk [] .exhausted).receive? capacity n =
      some (List.replicate n (.error .exhausted)) := by
    intro n
    induction n with
    | zero => rfl
    | succ n ih =>
        rw [receive?, start_of_nil rfl]
        dsimp only
        rw [ih]
        rfl
  have hplaces : (Source.lines (Text.textLines bytes)).places capacity ≤ Channel.maxCapacity ↔
      capacity ≤ Channel.maxCapacity := Channel.max_one_le_maxCapacity_iff
  rw [receive?, ofLines, start]
  dsimp only
  rw [Source.channel?_eq]
  by_cases hcapacity : capacity ≤ Channel.maxCapacity
  · rw [if_pos hcapacity, if_pos (hplaces.2 hcapacity)]
    dsimp only
    rw [hrest]
    rfl
  · rw [if_neg hcapacity, if_neg (mt hplaces.1 hcapacity)]

namespace Reading

variable {β σ : Type} [EditingSurface β] [Services σ]

/-- **Reading is replaying.**  Texts without line feeds that are written one a line, with either line
end after each and with or without one after the last, leave a session that reads them where it is
when they are replayed as the only recorded session, whatever the settings, the status and the ending
are.  The session is given back exactly if there are channels of the capacity of the settings, and
replaying gives it back as well if there also is a place for each text.

Of any bytes exactly the lines before the first one that is no text are received, in the only session
there is, and are heard once and in order.  That is so in every sequence of moves of the reader and
the listener, on a channel of any capacity that a channel may have: none goes on forever, none stops
before the listener has ended, and each leaves the same session.  On larger channels nothing is
received or heard, and no session is left. -/
theorem run_replaysLines (session : Session β σ) (settings : SpeechSettings) (status : Bool) :
    (∀ ts text ending, Text.Written ts text → (∀ t ∈ ts, '\n' ∉ t) →
      let replayed := Listener.start session (.replaying [ts] ending) settings status
      let l := Listener.start session (.ofLines (Text.encode text)) settings status
      replayed.phase.hasEnded = true ∧ l.phase.hasEnded = true ∧
        (l.join?.isSome = true ↔ settings.channelCapacity ≤ Channel.maxCapacity) ∧
        replayed.join? = (if ts.length ≤ Channel.maxCapacity then l.join? else none) ∧
        ∀ r, ReflTransGen Moves (start session (Text.encode text) settings status) r →
          r.listener.phase.hasEnded = true → r.listener.join? = l.join?) ∧
    (WellFounded fun r u : Reading β σ => Moves u r) ∧
    ∀ bytes, ∃ texts rest,
      (∀ lines, Text.Lined bytes lines ↔ lines = texts.map Text.encode ++ rest) ∧
      (∀ line ∈ rest.head?, Text.decode line = none) ∧
      (∀ capacity n, (Recognizer.ofLines bytes).receive? capacity (n + 1) =
        if capacity ≤ Channel.maxCapacity then
          some (.ok texts :: List.replicate n (.error .exhausted)) else none) ∧
      ∀ r, ReflTransGen Moves (start session bytes settings status) r →
        ((∃ u, Moves r u) ∨ r.listener.phase.hasEnded = true) ∧
        r.listener.heard.map Prod.fst <+: texts ∧
        (r.listener.phase ≠ .starting →
          ∀ capacity, (r.listener.recognizer.start capacity).1 = some (.error .exhausted)) ∧
        (r.listener.phase.hasEnded = true →
          r.listener.heard.map Prod.fst =
            (if settings.channelCapacity ≤ Channel.maxCapacity then texts else []) ∧
          r.listener.join? =
            (Listener.start session (.ofLines bytes) settings status).join?) := by
  refine ⟨?_, wellFounded_moves, fun bytes => ?_⟩
  · intro ts text ending hwritten hts replayed l
    obtain ⟨hended, hjoin⟩ := Listener.start_recorded session ts ending settings status
    obtain ⟨hended', hjoin'⟩ := Listener.start_ofLines session (Text.encode text) settings status
    replace hjoin : replayed.join? = _ := hjoin
    replace hjoin' : l.join? = _ := hjoin'
    have hsame : (session.setAuthenticated status).run
        ((Text.textLines (Text.encode text)).map .heard) =
          (session.setAuthenticated status).run (ts.map .heard) := by
      rw [Session.run_spoken, Text.spoken_textLines hwritten hts, ← Session.run_spoken]
    refine ⟨hended, hended', ?_, ?_, fun r hreaches hend => ?_⟩
    · rw [hjoin']
      split
      · next hopens => exact iff_of_true rfl hopens
      · next hopens => exact iff_of_false Bool.false_ne_true hopens
    · rw [hjoin, hjoin', hsame, ite_and]
    · rw [hjoin']
      exact (ended_of_reaches hreaches hend).2
  · obtain ⟨rest, hlines, hrest⟩ := Text.exists_eq_map_encode_append (Text.byteLines bytes)
    refine ⟨Text.textLines bytes, rest, fun lines => hlines ▸ Text.lined_iff, hrest,
      Recognizer.receive?_ofLines bytes, fun r hreaches => ?_⟩
    have horderly := (reaches_induction hreaches (orderly_start session bytes settings status)).1
    refine ⟨horderly.exists_move_or_ended, ⟨r.ahead, (heard_of_reaches hreaches).1⟩,
      horderly.start_eq, fun hend => ?_⟩
    obtain ⟨hheard, hjoin⟩ := ended_of_reaches hreaches hend
    exact ⟨hheard, hjoin.trans (Listener.start_ofLines session bytes settings status).2.symm⟩

/-- Both line ends, a carriage return that a text ends with, a text of blanks, and a last text that
is empty.  Two of the five texts are not read as they are, and the channel has one place. -/
theorem run_replaysLines_dictation :
    let session := Session.start (.start (FixedSurface.mk ⟨1, 1⟩)
      (FixedServices.mk [] none fun _ => .done) defaultThreshold)
    let settings := SpeechSettings.mk true 2 1
    let ts := ["Evoke edit".toList, "hello\r".toList, " \t".toList, "there".toList, []]
    let text := "Evoke edit\r\nhello\r\n \t\nthere\n".toList
    Text.Written ts text ∧ (∀ t ∈ ts, '\n' ∉ t) ∧
      Text.textLines (Text.encode text) =
        ["Evoke edit".toList, "hello".toList, " \t".toList, "there".toList] ∧
      ∃ r, ReflTransGen Moves (start session (Text.encode text) settings true) r ∧
        r.listener.phase.hasEnded = true ∧ r.listener.join?.isSome = true ∧
        r.listener.join? =
          (Listener.start session (.replaying [ts] .unsupported) settings true).join? := by
  intro session settings ts text
  have hwritten : Text.Written ts text :=
    .line (.inr rfl) (.line (.inl rfl) (.line (.inl rfl) (.line (.inl rfl) (.last []))))
  have hts : ∀ t ∈ ts, '\n' ∉ t := by decide
  have hread : Text.textLines (Text.encode text) =
      ["Evoke edit".toList, "hello".toList, " \t".toList, "there".toList] := by decide +kernel
  obtain ⟨r, hreaches, hend⟩ :=
    (orderly_start session (Text.encode text) settings true).exists_ended
  obtain ⟨-, -, hopens, hreplayed, hmoves⟩ :=
    (run_replaysLines session settings true).1 ts text .unsupported hwritten hts
  have hjoin := hmoves r hreaches hend
  have hsome := hopens.2 (by decide)
  rw [if_pos (by decide)] at hreplayed
  exact ⟨hwritten, hts, hread, r, hreaches, hend, hjoin ▸ hsome, hjoin.trans hreplayed.symm⟩

/-- One line, on a channel with one place more than there may be: asking for it is a panic, so that
the line is not received, and a listener that reads it ends without hearing it and gives no session
back. -/
theorem read_panics_of_capacity :
    let session := Session.start (.start (FixedSurface.mk ⟨1, 1⟩)
      (FixedServices.mk [] none fun _ => .done) defaultThreshold)
    let settings := SpeechSettings.mk true 0 2305843009213693952
    let bytes := Text.encode "login\n".toList
    Text.textLines bytes = ["login".toList] ∧
      (Recognizer.ofLines bytes).receive? 2305843009213693952 1 = none ∧
      (∀ r, ReflTransGen Moves (start session bytes settings true) r →
        r.listener.phase.hasEnded = true →
          r.listener.heard = [] ∧ r.listener.join? = none) ∧
      ∃ r, ReflTransGen Moves (start session bytes settings true) r ∧
        r.listener.phase.hasEnded = true := by
  intro session settings bytes
  have hcapacity : ¬settings.channelCapacity ≤ Channel.maxCapacity := by decide
  refine ⟨by decide +kernel, ?_, fun r hreaches hend => ?_,
    (orderly_start session bytes settings true).exists_ended⟩
  · rw [Recognizer.receive?_ofLines, if_neg (by decide)]
  · obtain ⟨hheard, hjoin⟩ := ended_of_reaches hreaches hend
    rw [if_neg hcapacity] at hheard hjoin
    exact ⟨List.map_eq_nil_iff.1 hheard, hjoin⟩

end Reading
end SpokenEditor
