import SpokenEditor.Listening.Listener

/-! # How a listener comes to rest

The turns of a listener, put together.  On an open recognition session it first catches up with the
feed of the status, then it hands on everything that waits on the channel, oldest first, and only
then it waits or, if the channel is closed, goes on.

* `begin_of_nil`, `begin_of_cons`: what becomes of a listener that begins a session;
* `settle_catchUp`: the feed of the status comes before anything that is heard;
* `settle_listening`: what a running listener makes of its recognition session. -/

namespace SpokenEditor

namespace Session

variable {β σ : Type} [EditingSurface β] [Services σ]

/-- The transcripts, each with the mode in which the session hears it. -/
def heardIn : List Text → Session β σ → List (Text × Mode)
  | [], _ => []
  | t :: ts, s => (t, s.engine.mode) :: heardIn ts (s.hear t).2

theorem map_fst_heardIn : ∀ (ts : List Text) (s : Session β σ), (s.heardIn ts).map Prod.fst = ts
  | [], _ => rfl
  | t :: ts, s => congrArg (t :: ·) (map_fst_heardIn ts (s.hear t).2)

end Session

namespace Listener

variable {β σ : Type}

/-! ### What the turns add up to -/

/-- The status that waits on the feed, if there is one and the listener looks at it. -/
def news (l : Listener β σ) : Option Bool :=
  if l.followsAuth && l.auth.unseen then some l.auth.latest else none

/-- The listener when it has looked at the feed of the status. -/
def catchUp (l : Listener β σ) : Listener β σ :=
  { l with
    session := l.news.elim l.session fun status => l.session.setAuthenticated status
    auth := if l.followsAuth then l.auth.seen else l.auth
    followsAuth := l.followsAuth && l.auth.isOpen
    log := l.log ++ l.news.toList.map .tell }

/-- The feed of the status has nothing for the listener. -/
def CaughtUp (l : Listener β σ) : Prop :=
  (l.followsAuth && l.auth.unseen) = false ∧ (l.followsAuth && !l.auth.isOpen) = false

/-- Nothing is left on the feed when the listener has looked at it. -/
theorem caughtUp_catchUp (l : Listener β σ) : l.catchUp.CaughtUp := by
  unfold catchUp CaughtUp
  cases l.followsAuth <;> simp [AuthFeed.seen]

theorem catchUp_of_caughtUp {l : Listener β σ} (h : l.CaughtUp) : l.catchUp = l := by
  obtain ⟨_, _, _, ⟨_, unseen, isOpen⟩, follows, _, _, _, _⟩ := l
  unfold CaughtUp at h
  cases follows <;> cases unseen <;> cases isOpen <;>
    simp_all [catchUp, news, AuthFeed.seen]

theorem catchUp_syncAuth {l : Listener β σ} (h : (l.followsAuth && l.auth.unseen) = true) :
    l.syncAuth.catchUp = l.catchUp := by
  unfold catchUp news syncAuth note
  rw [h]
  rw [Bool.and_eq_true] at h
  simp [h.1, AuthFeed.seen]

theorem catchUp_ignoreAuth {l : Listener β σ} (h : (l.followsAuth && l.auth.unseen) = false)
    (ho : (l.followsAuth && !l.auth.isOpen) = true) : l.ignoreAuth.catchUp = l.catchUp := by
  obtain ⟨_, _, _, ⟨_, unseen, isOpen⟩, follows, _, _, _, _⟩ := l
  cases follows <;> cases unseen <;> simp_all [catchUp, news, ignoreAuth, AuthFeed.seen]

/-- Without sessions the listener ends; the attempt is noted. -/
theorem begin_of_nil {l : Listener β σ} (h : l.recognizer.sessions = []) :
    l.begin = (l.note (.start l.settings.channelCapacity)).finish := by
  rw [begin, Recognizer.start_of_nil h]
  rfl

/-- The first of the sessions that are left begins, unless it asks for too many places. -/
theorem begin_of_cons {l : Listener β σ} {s : Source} {rest : List Source}
    (h : l.recognizer.sessions = s :: rest) :
    l.begin =
      { l.note (.start l.settings.channelCapacity) with
        recognizer := { l.recognizer with sessions := rest }
        phase :=
          if s.places l.settings.channelCapacity ≤ Channel.maxCapacity then
            .listening ⟨s.transcripts, s.places l.settings.channelCapacity, s.isLive⟩
          else .panicked } := by
  rw [begin, Recognizer.start, h]
  dsimp only
  rw [Source.channel?_eq]
  split <;> rfl

variable [EditingSurface β] [Services σ]

/-- The listener when it has handed on the transcripts. -/
def hearAll (ts : List Text) (l : Listener β σ) : Listener β σ :=
  { l with
    session := l.session.run (ts.map .heard)
    log := l.log ++ (l.session.heardIn ts).map fun h => .hear h.1 h.2 }

/-- The listener when it has read everything that waits on its channel. -/
def drain (channel : Channel) (l : Listener β σ) : Listener β σ :=
  { l.hearAll channel.unread with phase := .listening channel.emptied }

theorem hearAll_nil (l : Listener β σ) : l.hearAll [] = l := by
  unfold hearAll Session.heardIn
  rw [List.map_nil, List.map_nil, List.append_nil]
  rfl

theorem hearAll_cons (t : Text) (ts : List Text) (l : Listener β σ) :
    l.hearAll (t :: ts) = (l.hear t).hearAll ts := by
  have hlog : l.log ++ (l.session.heardIn (t :: ts)).map (fun h => Deed.hear h.1 h.2) =
      (l.hear t).log ++ ((l.hear t).session.heardIn ts).map fun h => .hear h.1 h.2 := by
    rw [Session.heardIn, List.map_cons, List.append_cons]
    rfl
  unfold hearAll
  rw [hlog]
  rfl

/-- A listener that is about to begin a recognition session begins it. -/
theorem settle_of_starting {l : Listener β σ} (h : l.phase = .starting) :
    l.settle = l.begin.settle :=
  settle_of_turn (by rw [turn, h])

/-- A session that asks for too many places is the end. -/
theorem settle_of_starting_panicked {l : Listener β σ} {s : Source} {rest : List Source}
    (hp : l.phase = .starting) (hs : l.recognizer.sessions = s :: rest)
    (hplaces : ¬s.places l.settings.channelCapacity ≤ Channel.maxCapacity) :
    l.settle =
      { l.note (.start l.settings.channelCapacity) with
        recognizer := { l.recognizer with sessions := rest }
        phase := .panicked } := by
  have hbegin := begin_of_cons hs
  rw [if_neg hplaces] at hbegin
  rw [settle_of_starting hp, hbegin, settle_of_hasEnded rfl]

/-! ### On an open recognition session -/

section

variable {l : Listener β σ} {channel : Channel}

/-- The turn of a listener that was not stopped. -/
theorem turn_listening (hp : l.phase = .listening channel) (hc : l.control = .running) :
    l.turn =
      if l.followsAuth && l.auth.unseen then some l.syncAuth
      else if l.followsAuth && !l.auth.isOpen then some l.ignoreAuth
      else
        match channel.unread with
        | t :: rest => some { l.hear t with phase := .listening { channel with unread := rest } }
        | [] => if channel.isOpen then none else some l.goOn := by
  rw [turn, hp]
  exact if_neg (by simp [hc])

/-- The feed of the status comes first. -/
theorem settle_catchUp (hp : l.phase = .listening channel) (hc : l.control = .running) :
    l.settle = l.catchUp.settle := by
  have hclosed : ∀ m : Listener β σ, m.phase = .listening channel → m.control = .running →
      (m.followsAuth && m.auth.unseen) = false → m.settle = m.catchUp.settle := by
    intro m hp hc hu
    cases ho : m.followsAuth && !m.auth.isOpen with
    | false => rw [catchUp_of_caughtUp ⟨hu, ho⟩]
    | true =>
        have hturn : m.turn = some m.ignoreAuth := by rw [turn_listening hp hc, hu, ho]; rfl
        have hdone : m.ignoreAuth.CaughtUp := ⟨rfl, rfl⟩
        rw [settle_of_turn hturn, ← catchUp_ignoreAuth hu ho, catchUp_of_caughtUp hdone]
  cases hu : l.followsAuth && l.auth.unseen with
  | false => exact hclosed l hp hc hu
  | true =>
      have hturn : l.turn = some l.syncAuth := by rw [turn_listening hp hc, hu]; rfl
      rw [settle_of_turn hturn, ← catchUp_syncAuth hu]
      exact hclosed l.syncAuth hp hc (Bool.and_false _)

/-- Then everything that waits on the channel is handed on, oldest first. -/
theorem settle_drain (hp : l.phase = .listening channel) (hc : l.control = .running)
    (hf : l.CaughtUp) : l.settle = (l.drain channel).settle := by
  obtain ⟨unread, capacity, isOpen⟩ := channel
  induction unread generalizing l with
  | nil =>
      have h : l.drain ⟨[], capacity, isOpen⟩ = l := by
        unfold drain
        rw [hearAll_nil, Channel.emptied, ← hp]
      rw [h]
  | cons t rest ih =>
      obtain ⟨m, hm⟩ : ∃ m, { l.hear t with phase := .listening ⟨rest, capacity, isOpen⟩ } = m :=
        ⟨_, rfl⟩
      have hturn : l.turn = some m := by
        rw [turn_listening hp hc, hf.1, hf.2, ← hm]
        rfl
      have hrest : l.drain ⟨t :: rest, capacity, isOpen⟩ = m.drain ⟨rest, capacity, isOpen⟩ := by
        rw [drain, hearAll_cons, ← hm]
        rfl
      rw [settle_of_turn hturn, hrest]
      subst hm
      exact ih hc hf rfl

/-- **What a running listener makes of its recognition session.** It looks at the feed, it hands on
what waits on the channel, and then it waits if the channel is open and goes on if it is closed. -/
theorem settle_listening (hp : l.phase = .listening channel) (hc : l.control = .running) :
    l.settle = if channel.isOpen then l.catchUp.drain channel
      else (l.catchUp.drain channel).goOn.settle := by
  have hf := l.caughtUp_catchUp
  obtain ⟨r, hr⟩ : ∃ r, l.catchUp.drain channel = r := ⟨_, rfl⟩
  have hturn : r.turn = if channel.isOpen then none else some r.goOn := by
    have hp' : r.phase = .listening channel.emptied := by rw [← hr]; rfl
    have hc' : r.control = .running := by rw [← hr]; exact hc
    have hf' : r.CaughtUp := by rw [← hr]; exact hf
    rw [turn_listening hp' hc', hf'.1, hf'.2]
    rfl
  have hdrain : l.catchUp.settle = (l.catchUp.drain channel).settle := settle_drain hp hc hf
  rw [settle_catchUp hp hc, hdrain, hr]
  split
  · next ho =>
    rw [if_pos ho] at hturn
    exact settle_of_idle hturn
  · next ho =>
    rw [if_neg ho] at hturn
    exact settle_of_turn hturn

end

end Listener
end SpokenEditor
