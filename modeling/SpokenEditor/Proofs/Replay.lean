import Mathlib.Data.List.TakeWhile
import SpokenEditor.Proofs.Settling
import SpokenEditor.Service.Fixed

/-! # Recorded sessions are replayed

A listener over recorded sessions does nothing but have the session hear them, one recognition
session after the other, up to a limit that the settings set.  A session for which there is no
channel ends it with a panic; what was heard before stays heard, but no session is given back.

* `SpeechSettings.mayRestart_iff`: the count of restarts, which begins again at zero, keeps the limit
  exactly;
* `SpeechSettings.begun`, `SpeechSettings.opened`: the sessions that the limit lets begin, and those
  among them before the first without a channel;
* `settle_of_starting_closed`: one recognition session from its beginning to its end;
* `start_replays`: all of them. -/

namespace SpokenEditor

/-- `n`, or the limit if there is one and `n` is above it. -/
def atMost : Option Nat → Nat → Nat
  | none, n => n
  | some limit, n => min n limit

theorem atMost_one (n : Nat) : atMost (some 1) (n + 1) = 1 :=
  Nat.min_eq_right (Nat.le_add_left 1 n)

theorem atMost_succ (limit : Option Nat) (n : Nat) :
    atMost (limit.map (· + 1)) (n + 1) = atMost limit n + 1 := by
  cases limit with
  | none => rfl
  | some k => exact Nat.succ_min_succ n k

namespace SpeechSettings

/-- How many recognition sessions may begin, if there is a limit. -/
def limit? (s : SpeechSettings) : Option Nat :=
  if s.autoRestart = false then some 1
  else if 0 < s.maxRestarts then some (s.maxRestarts.toNat + 1)
  else none

/-- One session may begin in any case. -/
theorem pos_of_mem_limit? {k : Nat} (s : SpeechSettings) (h : k ∈ s.limit?) : 0 < k := by
  unfold limit? at h
  split at h
  · obtain rfl : 1 = k := Option.some.inj h
    exact Nat.one_pos
  split at h
  · obtain rfl : s.maxRestarts.toNat + 1 = k := Option.some.inj h
    exact Nat.succ_pos _
  · cases h

/-- Below the limit the count has not begun again at zero, and another session may begin exactly if
that one is below the limit, too. -/
theorem mayRestart_iff {s : SpeechSettings} {r : Nat} (h : ∀ k ∈ s.limit?, r < k) :
    s.mayRestart (UInt32.ofNat r) = true ↔ ∀ k ∈ s.limit?, r + 1 < k := by
  unfold limit? at h ⊢
  unfold mayRestart
  cases hauto : s.autoRestart with
  | false => simp
  | true =>
      rw [hauto] at h
      by_cases hmax : 0 < s.maxRestarts
      · have hr : r < s.maxRestarts.toNat + 1 := h _ (by simp [hmax])
        have hlt : r < UInt32.size :=
          Nat.lt_of_le_of_lt (Nat.le_of_lt_succ hr) s.maxRestarts.toNat_lt
        have hle : s.maxRestarts ≤ UInt32.ofNat r ↔ s.maxRestarts.toNat ≤ r := by
          rw [UInt32.le_iff_toNat_le, UInt32.toNat_ofNat_of_lt' hlt]
        simp [hmax, hle]
      · simp [hmax]

example : (SpeechSettings.mk true 2 8).limit? = some 3 := by decide

example : (SpeechSettings.mk true 0 8).limit? = none := by decide

/-- How many recognition sessions may still begin when `r` have begun, if there is a limit. -/
def left? (r : Nat) (s : SpeechSettings) : Option Nat :=
  s.limit?.map (· - r)

theorem left?_zero (s : SpeechSettings) : s.left? 0 = s.limit? :=
  Option.map_id_apply

theorem left?_of_more {s : SpeechSettings} {r : Nat} (h : ∀ k ∈ s.limit?, r + 1 < k) :
    s.left? r = (s.left? (r + 1)).map (· + 1) := by
  unfold left?
  cases hk : s.limit? with
  | none => rfl
  | some k =>
      have := h k hk
      simp only [Option.map_some, Option.some.injEq]
      omega

theorem left?_of_last {s : SpeechSettings} {r : Nat} (h : ∀ k ∈ s.limit?, r < k)
    (hlast : ¬∀ k ∈ s.limit?, r + 1 < k) : s.left? r = some 1 := by
  unfold left?
  cases hk : s.limit? with
  | none =>
      rw [hk] at hlast
      exact absurd nofun hlast
  | some k =>
      have hr := h k hk
      rw [hk] at hlast
      simp only [Option.mem_some_iff, forall_eq'] at hlast
      simp only [Option.map_some, Option.some.injEq]
      omega

theorem atMost_left?_one {s : SpeechSettings} {r : Nat} (h : ∀ k ∈ s.limit?, r < k) :
    atMost (s.left? r) 1 = 1 := by
  unfold left?
  cases hk : s.limit? with
  | none => rfl
  | some k =>
      have := h k hk
      simp only [Option.map_some, atMost]
      omega

/-- The sessions that the limit lets begin when `r` have begun. -/
def begun (r : Nat) (sessions : List (List Text)) (s : SpeechSettings) : List (List Text) :=
  sessions.take (atMost (s.left? r) sessions.length)

theorem begun_of_more {s : SpeechSettings} {r : Nat} (h : ∀ k ∈ s.limit?, r + 1 < k)
    (ts : List Text) (sessions : List (List Text)) :
    s.begun r (ts :: sessions) = ts :: s.begun (r + 1) sessions := by
  rw [begun, left?_of_more h, List.length_cons, atMost_succ, List.take_succ_cons]
  rfl

theorem begun_of_last {s : SpeechSettings} {r : Nat} (h : ∀ k ∈ s.limit?, r < k)
    (hlast : ¬∀ k ∈ s.limit?, r + 1 < k) (ts : List Text) (sessions : List (List Text)) :
    s.begun r (ts :: sessions) = [ts] := by
  rw [begun, left?_of_last h hlast, List.length_cons, atMost_one, List.take_succ_cons,
    List.take_zero]

/-- The first session begins below the limit, whether another may follow it or not. -/
theorem exists_begun_eq_cons {s : SpeechSettings} {r : Nat} (h : ∀ k ∈ s.limit?, r < k)
    (ts : List Text) (sessions : List (List Text)) :
    ∃ rest, s.begun r (ts :: sessions) = ts :: rest := by
  by_cases hmore : ∀ k ∈ s.limit?, r + 1 < k
  · exact ⟨_, begun_of_more hmore ts sessions⟩
  · exact ⟨_, begun_of_last h hmore ts sessions⟩

/-- Whether there is a channel for the transcripts of a recorded session. -/
def holds (s : SpeechSettings) (ts : List Text) : Bool :=
  max (max 1 s.channelCapacity) ts.length ≤ Channel.maxCapacity

/-- The sessions before the first without a channel. -/
def opened (r : Nat) (sessions : List (List Text)) (s : SpeechSettings) : List (List Text) :=
  (s.begun r sessions).takeWhile s.holds

/-- How often a session is asked for when `r` have begun: as often as the limit lets it and once
more if there are no others, or up to the first session without a channel. -/
def attempts (r : Nat) (sessions : List (List Text)) (s : SpeechSettings) : Nat :=
  if (s.begun r sessions).all s.holds then atMost (s.left? r) (sessions.length + 1)
  else (s.opened r sessions).length + 1

/-- Whether all of them have a channel decides how the listener ends. -/
def verdict (r : Nat) (sessions : List (List Text)) (s : SpeechSettings) : Phase :=
  if (s.begun r sessions).all s.holds then .finished else .panicked

section

variable {s : SpeechSettings} {r : Nat} {ts : List Text} {sessions : List (List Text)}

/-- If there is a channel for each of them, the limit alone is the end. -/
theorem plan_of_forall (h : ∀ ts ∈ s.begun r sessions, s.holds ts = true) :
    s.verdict r sessions = .finished ∧ s.opened r sessions = s.begun r sessions ∧
      s.attempts r sessions = atMost (s.left? r) (sessions.length + 1) := by
  have hall : (s.begun r sessions).all s.holds = true := List.all_eq_true.2 h
  exact ⟨if_pos hall, List.takeWhile_eq_self_iff.2 h, if_pos hall⟩

/-- If there is none for one of them, asking for it is the end. -/
theorem plan_of_exists (h : ∃ ts ∈ s.begun r sessions, s.holds ts = false) :
    s.verdict r sessions = .panicked ∧
      s.attempts r sessions = (s.opened r sessions).length + 1 := by
  have hall : ¬(s.begun r sessions).all s.holds = true := fun hall => by
    obtain ⟨ts, hmem, hts⟩ := h
    exact Bool.eq_false_iff.1 hts (List.all_eq_true.1 hall ts hmem)
  exact ⟨if_neg hall, if_neg hall⟩

theorem opened_of_more (h : ∀ k ∈ s.limit?, r + 1 < k) (hts : s.holds ts = true) :
    s.opened r (ts :: sessions) = ts :: s.opened (r + 1) sessions := by
  rw [opened, begun_of_more h, List.takeWhile_cons_of_pos hts]
  rfl

theorem attempts_of_more (h : ∀ k ∈ s.limit?, r + 1 < k) (hts : s.holds ts = true) :
    s.attempts r (ts :: sessions) = s.attempts (r + 1) sessions + 1 := by
  rw [attempts, attempts, begun_of_more h, opened_of_more h hts, List.all_cons, hts,
    Bool.true_and, left?_of_more h, List.length_cons, atMost_succ, List.length_cons]
  split <;> rfl

theorem verdict_of_more (h : ∀ k ∈ s.limit?, r + 1 < k) (hts : s.holds ts = true) :
    s.verdict r (ts :: sessions) = s.verdict (r + 1) sessions := by
  rw [verdict, verdict, begun_of_more h, List.all_cons, hts, Bool.true_and]

end

end SpeechSettings

namespace Listener

variable {β σ : Type}

theorem starts_hearAll [EditingSurface β] [Services σ] (ts : List Text) (l : Listener β σ) :
    (l.hearAll ts).starts = l.starts := by
  have h : ((l.session.heardIn ts).map fun h => Deed.hear h.1 h.2).filterMap Deed.start? = [] := by
    simp [List.filterMap_map, Deed.start?]
  rw [starts, hearAll, List.filterMap_append, h, List.append_nil]
  rfl

theorem starts_note_start (capacity : Nat) (l : Listener β σ) :
    (l.note (.start capacity)).starts = l.starts ++ [capacity] :=
  List.filterMap_append

variable [EditingSurface β] [Services σ]

/-- The listener when a session whose transcripts are all there is over. -/
def replay (s : Source) (rest : List Source) (l : Listener β σ) : Listener β σ :=
  { (l.note (.start l.settings.channelCapacity)).hearAll s.transcripts with
    recognizer := { l.recognizer with sessions := rest }
    phase := .listening ⟨[], s.places l.settings.channelCapacity, false⟩ }

/-- A session whose transcripts are all there, from its beginning to its end. -/
theorem settle_of_starting_closed {l : Listener β σ} {s : Source} {rest : List Source}
    (hp : l.phase = .starting) (hc : l.control = .running) (hf : l.CaughtUp)
    (hs : l.recognizer.sessions = s :: rest) (hclosed : s.isLive = false)
    (hplaces : s.places l.settings.channelCapacity ≤ Channel.maxCapacity) :
    l.settle = (l.replay s rest).goOn.settle := by
  obtain ⟨n, hn⟩ : ∃ n, l.begin = n := ⟨_, rfl⟩
  have hbegin := begin_of_cons hs
  rw [if_pos hplaces, hclosed, hn] at hbegin
  have hp' : n.phase =
      .listening ⟨s.transcripts, s.places l.settings.channelCapacity, false⟩ := by rw [hbegin]
  have hc' : n.control = .running := by rw [hbegin]; exact hc
  have hf' : n.CaughtUp := by rw [hbegin]; exact hf
  rw [settle_of_starting hp, hn, settle_listening hp' hc', if_neg (by simp),
    catchUp_of_caughtUp hf', hbegin]
  rfl

theorem starts_replay (s : Source) (rest : List Source) (l : Listener β σ) :
    (l.replay s rest).starts = l.starts ++ [l.settings.channelCapacity] :=
  (starts_hearAll s.transcripts (l.note (.start l.settings.channelCapacity))).trans
    (starts_note_start _ l)

/-- A listener that is about to begin recognition session number `r`, counted from zero. The
settings let that session begin, and these recorded sessions are left. -/
structure About (sessions : List (List Text)) (r : Nat) (l : Listener β σ) : Prop where
  phase : l.phase = .starting
  control : l.control = .running
  caughtUp : l.CaughtUp
  sessions : l.recognizer.sessions = sessions.map .recorded
  restarts : l.restarts = UInt32.ofNat r
  limit : ∀ k ∈ l.settings.limit?, r < k

/-- What such a listener becomes: it replays the sessions, as many as the settings still let it, up
to the first without a channel, and then it has ended. -/
structure Replayed (sessions : List (List Text)) (r : Nat) (l next : Listener β σ) : Prop where
  phase : next.phase = l.settings.verdict r sessions
  session : next.session =
    l.session.run ((l.settings.opened r sessions).flatten.map .heard)
  starts : next.starts = l.starts ++
    List.replicate (l.settings.attempts r sessions) l.settings.channelCapacity
  restarts : next.restarts = UInt32.ofNat (r + l.settings.attempts r sessions - 1)

variable {l next : Listener β σ} {ts : List Text} {sessions : List (List Text)} {r : Nat}

/-- After a single attempt to begin a session the count of restarts is what it was. -/
theorem Replayed.of_attempts_eq_one (h : About sessions r l)
    (hone : l.settings.attempts r sessions = 1)
    (hphase : next.phase = l.settings.verdict r sessions)
    (hsession : next.session =
      l.session.run ((l.settings.opened r sessions).flatten.map .heard))
    (hstarts : next.starts = l.starts ++ [l.settings.channelCapacity])
    (hrestarts : next.restarts = l.restarts) : Replayed sessions r l next where
  phase := hphase
  session := hsession
  starts := by
    rw [hone]
    exact hstarts
  restarts := by rw [hone, Nat.add_sub_cancel, hrestarts, h.restarts]

/-- Without sessions the attempt to begin one ends the listener. -/
theorem replayed_nil (h : About [] r l) : Replayed [] r l l.settle := by
  have hbegun : l.settings.begun r [] = [] := List.take_nil
  obtain ⟨hverdict, hopened, hattempts⟩ :=
    SpeechSettings.plan_of_forall (hbegun ▸ List.forall_mem_nil _)
  have hone := hattempts.trans (SpeechSettings.atMost_left?_one h.limit)
  rw [settle_of_starting h.phase, begin_of_nil h.sessions, settle_of_hasEnded rfl]
  refine .of_attempts_eq_one h hone hverdict.symm ?_ (starts_note_start _ l) rfl
  rw [hopened, hbegun]
  rfl

/-- A session without a channel ends the listener with a panic. -/
theorem replayed_panicked (h : About (ts :: sessions) r l) (hts : l.settings.holds ts = false) :
    Replayed (ts :: sessions) r l l.settle := by
  obtain ⟨rest, hbegun⟩ := SpeechSettings.exists_begun_eq_cons h.limit ts sessions
  have hopened : l.settings.opened r (ts :: sessions) = [] := by
    rw [SpeechSettings.opened, hbegun, List.takeWhile_cons_of_neg (Bool.eq_false_iff.1 hts)]
  obtain ⟨hverdict, hone⟩ :=
    SpeechSettings.plan_of_exists ⟨ts, hbegun ▸ List.mem_cons_self, hts⟩
  rw [hopened] at hone
  rw [settle_of_starting_panicked h.phase h.sessions (of_decide_eq_false hts)]
  refine .of_attempts_eq_one h hone hverdict.symm ?_ (starts_note_start _ l) rfl
  rw [hopened]
  rfl

/-- The limit ends the listener behind the session that reaches it. -/
theorem replayed_last (h : About (ts :: sessions) r l) (hts : l.settings.holds ts = true)
    (hlast : ¬∀ k ∈ l.settings.limit?, r + 1 < k) : Replayed (ts :: sessions) r l l.settle := by
  have hbegun := SpeechSettings.begun_of_last h.limit hlast ts sessions
  have hall : ∀ t ∈ l.settings.begun r (ts :: sessions), l.settings.holds t = true := by
    rw [hbegun, List.forall_mem_singleton]
    exact hts
  obtain ⟨hverdict, hopened, hone⟩ := SpeechSettings.plan_of_forall hall
  rw [SpeechSettings.left?_of_last h.limit hlast, List.length_cons, atMost_one] at hone
  have hmay : ¬l.settings.mayRestart l.restarts = true := by
    rw [h.restarts, SpeechSettings.mayRestart_iff h.limit]
    exact hlast
  have hgo : (l.replay (.recorded ts) (sessions.map .recorded)).goOn =
      (l.replay (.recorded ts) (sessions.map .recorded)).finish := if_neg hmay
  rw [settle_of_starting_closed h.phase h.control h.caughtUp h.sessions rfl
    (of_decide_eq_true hts), hgo, settle_of_hasEnded rfl]
  refine .of_attempts_eq_one h hone hverdict.symm ?_
    (starts_replay (.recorded ts) (sessions.map .recorded) l) rfl
  rw [hopened, hbegun, List.flatten_singleton]
  rfl

/-- Below the limit the next session follows. -/
theorem about_next (h : About (ts :: sessions) r l) (hts : l.settings.holds ts = true)
    (hmore : ∀ k ∈ l.settings.limit?, r + 1 < k) :
    ∃ next, l.settle = next.settle ∧ About sessions (r + 1) next ∧
      next.settings = l.settings ∧ next.session = l.session.run (ts.map .heard) ∧
      next.starts = l.starts ++ [l.settings.channelCapacity] := by
  have hmay : l.settings.mayRestart l.restarts = true := by
    rw [h.restarts, SpeechSettings.mayRestart_iff h.limit]
    exact hmore
  have hgo : (l.replay (.recorded ts) (sessions.map .recorded)).goOn =
      { l.replay (.recorded ts) (sessions.map .recorded) with
        phase := .starting
        restarts := l.restarts + 1 } := if_pos hmay
  refine ⟨_, settle_of_starting_closed h.phase h.control h.caughtUp h.sessions rfl
    (of_decide_eq_true hts), ?_⟩
  rw [hgo]
  refine ⟨⟨rfl, h.control, h.caughtUp, rfl, ?_, hmore⟩, rfl, rfl,
    starts_replay (.recorded ts) (sessions.map .recorded) l⟩
  rw [UInt32.ofNat_add, ← h.restarts]
  rfl

/-- All recorded sessions, by induction on them. -/
theorem replayed_settle : ∀ (sessions : List (List Text)) (r : Nat) {l : Listener β σ},
    About sessions r l → Replayed sessions r l l.settle
  | [], _, _, h => replayed_nil h
  | ts :: sessions, r, l, h => by
      by_cases hts : l.settings.holds ts = true
      · by_cases hmore : ∀ k ∈ l.settings.limit?, r + 1 < k
        · obtain ⟨next, hsettle, habout, hsettings, hsession, hstarts⟩ := about_next h hts hmore
          have ih := replayed_settle sessions (r + 1) habout
          have hattempts : l.settings.attempts r (ts :: sessions) =
              l.settings.attempts (r + 1) sessions + 1 := SpeechSettings.attempts_of_more hmore hts
          rw [hsettle]
          refine ⟨?_, ?_, ?_, ?_⟩
          · rw [ih.phase, hsettings, SpeechSettings.verdict_of_more hmore hts]
          · rw [ih.session, hsettings, hsession, ← Session.run_append, ← List.map_append,
              SpeechSettings.opened_of_more hmore hts, List.flatten_cons]
          · rw [ih.starts, hsettings, hstarts, hattempts, List.replicate_succ,
              List.append_assoc, List.singleton_append]
          · rw [ih.restarts, hsettings, hattempts]
            congr 1
            omega
        · exact replayed_last h hts hmore
      · exact replayed_panicked h (Bool.eq_false_iff.2 hts)

/-- What a listener over recorded sessions becomes when it begins with the first of them. -/
theorem replayed_start (session : Session β σ) (sessions : List (List Text)) (ending : SpeechError)
    (settings : SpeechSettings) (status : Bool) :
    let l := Listener.start session (.replaying sessions ending) settings status
    l.phase = settings.verdict 0 sessions ∧
      l.session = session.run
        (.authenticated status :: (settings.opened 0 sessions).flatten.map .heard) ∧
      l.starts = List.replicate (settings.attempts 0 sessions) settings.channelCapacity ∧
      l.restarts.toNat = (l.starts.length - 1) % UInt32.size := by
  intro l
  have habout : About sessions 0 (initial session (.replaying sessions ending) settings status) :=
    ⟨rfl, rfl, ⟨rfl, rfl⟩, rfl, rfl, fun k hk => settings.pos_of_mem_limit? hk⟩
  obtain ⟨hphase, hsession, hstarts, hrestarts⟩ := replayed_settle sessions 0 habout
  refine ⟨hphase, hsession, hstarts, ?_⟩
  have hlength : l.starts.length = settings.attempts 0 sessions := by
    rw [show l.starts = _ from hstarts]
    exact List.length_replicate
  rw [hlength, show l.restarts = _ from hrestarts, UInt32.toNat_ofNat', Nat.zero_add]
  rfl

/-- **Recorded sessions are replayed up to the limit of the settings.** Whatever the sessions, their
ending, the settings and the status are, the listener ends.  Take the first sessions, as many as the
limit lets begin.  If there is a channel for each of them, the session that is given back is the one
that is told the status and hears their transcripts; the listener asked for a session once more if
the limit lets it, always on a channel of the capacity of the settings.  If there is no channel for
one of them, asking for it was a panic: the sessions before it were heard, no session is given back
and none is asked for any more.  The count of restarts is one less than the attempts to begin a
session, modulo `UInt32.size`. -/
theorem start_replays (session : Session β σ) (sessions : List (List Text)) (ending : SpeechError)
    (settings : SpeechSettings) (status : Bool) :
    let l := Listener.start session (.replaying sessions ending) settings status
    let begun := sessions.take (atMost settings.limit? sessions.length)
    let opened := begun.takeWhile settings.holds
    ((∀ ts ∈ begun, settings.holds ts = true) →
      l.join? = some (session.run (.authenticated status :: begun.flatten.map .heard)) ∧
      l.starts = List.replicate (atMost settings.limit? (sessions.length + 1))
        settings.channelCapacity) ∧
    ((∃ ts ∈ begun, settings.holds ts = false) →
      l.phase = .panicked ∧ l.join? = none ∧
      l.session = session.run (.authenticated status :: opened.flatten.map .heard) ∧
      l.starts = List.replicate (opened.length + 1) settings.channelCapacity) ∧
    l.restarts.toNat = (l.starts.length - 1) % UInt32.size := by
  intro l begun opened
  obtain ⟨hphase, hsession, hstarts, hrestarts⟩ :
      l.phase = _ ∧ l.session = _ ∧ l.starts = _ ∧ _ :=
    replayed_start session sessions ending settings status
  have hbegun : settings.begun 0 sessions = begun := by
    rw [SpeechSettings.begun, settings.left?_zero]
  refine ⟨fun hall => ?_, fun hsome => ?_, hrestarts⟩
  · obtain ⟨hverdict, hopened, hattempts⟩ :=
      SpeechSettings.plan_of_forall (s := settings) (r := 0) (hbegun ▸ hall)
    rw [hattempts, settings.left?_zero] at hstarts
    rw [hopened, hbegun] at hsession
    rw [join?, hphase, hverdict]
    exact ⟨congrArg some hsession, hstarts⟩
  · obtain ⟨hverdict, hattempts⟩ :=
      SpeechSettings.plan_of_exists (s := settings) (r := 0) (hbegun ▸ hsome)
    have hopened : settings.opened 0 sessions = opened := by
      rw [SpeechSettings.opened, hbegun]
    rw [hattempts, hopened] at hstarts
    rw [hopened] at hsession
    rw [join?, hphase, hverdict]
    exact ⟨rfl, rfl, hsession, hstarts⟩

/-- Two of three sessions are replayed on channels of no places but those that they need, and none
is on channels with one place too many. -/
theorem start_replays_instance :
    let session := Session.start (.start (FixedSurface.mk ⟨1, 1⟩)
      (FixedServices.mk [] none fun _ => .done) defaultThreshold)
    let sessions := [["evoke edit".toList, "a".toList], ["b".toList], ["c".toList]]
    let small := Listener.start session (.replaying sessions .exhausted) ⟨true, 1, 0⟩ true
    let large := Listener.start session (.replaying sessions .exhausted)
      ⟨true, 1, Channel.maxCapacity + 1⟩ true
    (∀ ts ∈ sessions.take 2, (SpeechSettings.mk true 1 0).holds ts = true) ∧
      small.join? = some (session.run [.authenticated true, .heard "evoke edit".toList,
        .heard "a".toList, .heard "b".toList]) ∧ small.starts = [0, 0] ∧
    (∃ ts ∈ sessions.take 2,
        (SpeechSettings.mk true 1 (Channel.maxCapacity + 1)).holds ts = false) ∧
      large.join? = none ∧ large.starts = [Channel.maxCapacity + 1] := by
  intro session sessions small large
  have hsmall := (start_replays session sessions .exhausted ⟨true, 1, 0⟩ true).1
  have hlarge := (start_replays session sessions .exhausted
    ⟨true, 1, Channel.maxCapacity + 1⟩ true).2.1
  have hall : ∀ ts ∈ sessions.take 2, (SpeechSettings.mk true 1 0).holds ts = true := by decide
  have hsome : ∃ ts ∈ sessions.take 2,
      (SpeechSettings.mk true 1 (Channel.maxCapacity + 1)).holds ts = false :=
    ⟨["b".toList], by decide, by decide⟩
  obtain ⟨hjoin, hstarts⟩ := hsmall hall
  obtain ⟨-, hjoin', -, hstarts'⟩ := hlarge hsome
  exact ⟨hall, hjoin, hstarts, hsome, hjoin', hstarts'⟩

/-- Two recorded sessions without a limit, on channels with one place more than there may be: instead
of hearing all three transcripts and giving the session back, the listener panics when it asks for
the first of them. -/
theorem start_panics_of_capacity :
    let session := Session.start (.start (FixedSurface.mk ⟨1, 1⟩)
      (FixedServices.mk [] none fun _ => .done) defaultThreshold)
    let sessions := [["evoke edit".toList, "a".toList], ["b".toList]]
    let settings := SpeechSettings.mk true 0 2305843009213693952
    let l := Listener.start session (.replaying sessions .exhausted) settings true
    settings.limit? = none ∧
      l.join? = none ∧
      l.join? ≠ some (session.run (.authenticated true :: sessions.flatten.map .heard)) ∧
      l.session = session.run [.authenticated true] ∧
      l.starts = [2305843009213693952] ∧
      l.starts ≠ List.replicate (sessions.length + 1) 2305843009213693952 := by
  intro session sessions settings l
  have hl : l = _ := settle_of_starting_panicked rfl rfl (by decide)
  rw [hl]
  exact ⟨rfl, rfl, nofun, rfl, rfl, by decide⟩

end Listener
end SpokenEditor
