import Mathlib.Data.List.Forall2
import SpokenEditor.Proofs.Delivery
import SpokenEditor.Proofs.Halves

/-! # The latest status counts

The status of the authentication reaches a listener on a feed of its own, which keeps the latest
status only and is looked at before the channel.  So nothing depends on where in a batch a status is
reported, nor on what was reported before it in the same batch, and whatever is heard in a batch is
heard under the latest status.

* `AuthFeed.actAll_eq`: what a batch leaves on the feed;
* `Listener.actAll_apart`: the feed and the rest of the listener change apart;
* `Listener.run_of_interleaved`, `Listener.actAll_condense`: so batches may be rearranged and
  shortened;
* `Listener.keepsStatus_turn`, `Listener.keepsStatus_settle`: a turn keeps the status under which
  things are heard, and so does a listener that comes to rest;
* `Listener.heeds_run`: that status is the latest one;
* `Listener.run_heedsLatest`: every script. -/

namespace SpokenEditor

/-- Whether the action is one on the feed of the status. -/
def Action.onFeed : Action → Bool
  | report _ | closeAuth => true
  | _ => false

/-- The batches have the same actions on the feed, in the same order, and the same other actions, in
the same order. -/
structure Interleaved (as bs : List Action) : Prop where
  feed : as.filter (fun a => a.onFeed) = bs.filter fun a => a.onFeed
  others : as.filter (fun a => !a.onFeed) = bs.filter fun a => !a.onFeed

/-- The statuses that are reported before the feed is closed. -/
def statuses : List Action → List Bool
  | [] => []
  | .report status :: actions => status :: statuses actions
  | .closeAuth :: _ => []
  | _ :: actions => statuses actions

/-- The actions without the reports that come to nothing: another report follows before the feed is
closed, or the feed is closed already. -/
def condense : (isOpen : Bool) → List Action → List Action
  | _, [] => []
  | isOpen, .report status :: actions =>
    if isOpen = true ∧ statuses actions = [] then .report status :: condense isOpen actions
    else condense isOpen actions
  | _, .closeAuth :: actions => .closeAuth :: condense false actions
  | isOpen, a :: actions => a :: condense isOpen actions

theorem statuses_append (as bs : List Action) :
    statuses (as ++ bs) = statuses as ++ if .closeAuth ∈ as then [] else statuses bs := by
  induction as with
  | nil => simp [statuses]
  | cons a as ih => cases a <;> simp [statuses, ih]

/-- Of the statuses only the last one is left. -/
theorem statuses_condense (actions : List Action) :
    statuses (condense true actions) = (statuses actions).getLast?.toList := by
  induction actions with
  | nil => rfl
  | cons a actions ih =>
      cases a with
      | report status =>
          rw [condense, statuses]
          split
          · next h => simp [statuses, ih, h.2]
          · next h =>
            have hne : statuses actions ≠ [] := fun hnil => h ⟨rfl, hnil⟩
            rw [ih, List.getLast?_cons, List.getLast?_eq_some_getLast hne]
            rfl
      | closeAuth => rfl
      | _ => exact ih

theorem closeAuth_mem_condense_iff (actions : List Action) (isOpen : Bool) :
    .closeAuth ∈ condense isOpen actions ↔ .closeAuth ∈ actions := by
  induction actions generalizing isOpen with
  | nil => rfl
  | cons a actions ih =>
      cases a with
      | report status =>
          rw [condense]
          split <;> simp [ih]
      | closeAuth => simp [condense]
      | _ => simp [condense, ih]

theorem filter_condense (actions : List Action) (isOpen : Bool) :
    ((condense isOpen actions).filter fun a => !a.onFeed) =
      actions.filter fun a => !a.onFeed := by
  induction actions generalizing isOpen with
  | nil => rfl
  | cons a actions ih =>
      cases a with
      | report status =>
          rw [condense, List.filter_cons_of_neg (by simp [Action.onFeed])]
          split
          · rw [List.filter_cons_of_neg (by simp [Action.onFeed]), ih]
          · exact ih isOpen
      | closeAuth =>
          rw [condense, List.filter_cons_of_neg (by simp [Action.onFeed]),
            List.filter_cons_of_neg (by simp [Action.onFeed]), ih]
      | _ => exact congrArg (List.cons _) (ih isOpen)

/-! ### The feed -/

namespace AuthFeed

/-- The feed after an action; most actions leave it alone. -/
def act (f : AuthFeed) : Action → AuthFeed
  | .report status => f.report status
  | .closeAuth => f.close
  | _ => f

/-- The feed after the actions, one after the other. -/
def actAll (f : AuthFeed) (actions : List Action) : AuthFeed :=
  actions.foldl act f

/-- The statuses that get through: none once the feed is closed. -/
def heeded (f : AuthFeed) (actions : List Action) : List Bool :=
  if f.isOpen then statuses actions else []

theorem actAll_of_closed {f : AuthFeed} (h : f.isOpen = false) (actions : List Action) :
    f.actAll actions = f := by
  induction actions with
  | nil => rfl
  | cons a actions ih =>
      have hact : f.act a = f := by
        cases a with
        | report status => simp [act, report, h]
        | closeAuth => rw [act, close, ← h]
        | _ => rfl
      rw [actAll, List.foldl_cons, hact]
      exact ih

/-- **What a batch leaves on the feed**: the last status that got through, unseen. -/
theorem actAll_eq (f : AuthFeed) (actions : List Action) :
    f.actAll actions =
      { latest := (f.heeded actions).getLast?.getD f.latest
        unseen := f.unseen || (f.heeded actions).getLast?.isSome
        isOpen := f.isOpen && decide (.closeAuth ∉ actions) } := by
  cases ho : f.isOpen with
  | false =>
      rw [actAll_of_closed ho]
      obtain ⟨latest, unseen, isOpen⟩ := f
      obtain rfl : isOpen = false := ho
      simp [heeded]
  | true =>
      induction actions generalizing f with
      | nil => simp [actAll, heeded, statuses, ← ho]
      | cons a actions ih =>
          have hcons : f.actAll (a :: actions) = (f.act a).actAll actions := rfl
          cases a with
          | report status =>
              have hact : f.act (.report status) = ⟨status, true, true⟩ := by
                simp [act, report, ho]
              rw [hcons, hact, ih _ rfl]
              simp [heeded, ho, statuses, List.getLast?_cons]
          | closeAuth =>
              have hclosed : (f.act .closeAuth).isOpen = false := rfl
              rw [hcons, actAll_of_closed hclosed]
              simp [act, close, heeded, ho, statuses]
          | _ =>
              have ih := ih f ho
              simpa [hcons, act, heeded, ho, statuses] using ih

theorem actAll_filter_onFeed (f : AuthFeed) (actions : List Action) :
    f.actAll (actions.filter fun a => a.onFeed) = f.actAll actions := by
  unfold actAll
  rw [List.foldl_filter]
  congr 1
  funext f a
  cases a <;> rfl

theorem actAll_condense (f : AuthFeed) (actions : List Action) :
    f.actAll (condense f.isOpen actions) = f.actAll actions := by
  have hlast : (f.heeded (condense f.isOpen actions)).getLast? = (f.heeded actions).getLast? := by
    unfold heeded
    cases f.isOpen with
    | false => rfl
    | true =>
        rw [if_pos rfl, if_pos rfl, statuses_condense]
        cases (statuses actions).getLast? <;> rfl
  simp only [actAll_eq, hlast, closeAuth_mem_condense_iff]

end AuthFeed

/-! ### The feed and the rest of the listener -/

namespace Listener

variable {β σ : Type}

/-- An action that is not one on the feed does not depend on it. -/
theorem act_apart {a : Action} (ha : a.onFeed = false) (l : Listener β σ) (f : AuthFeed) :
    ({ l with auth := f }.act a).2 = { (l.act a).2 with auth := f } := by
  cases a with
  | report status => cases ha
  | closeAuth => cases ha
  | send t =>
      simp only [act, send]
      split <;> rfl
  | endSession =>
      simp only [act, endSession]
      split <;> rfl
  | stop =>
      simp only [act, ask]
      split <;> rfl
  | drop =>
      simp only [act, ask]
      split <;> rfl

/-- **The feed and the rest of the listener change apart**, by induction on the actions. -/
theorem actAll_apart (actions : List Action) (l : Listener β σ) (f : AuthFeed) :
    ({ l with auth := f }.actAll actions).2 =
      { (l.actAll (actions.filter fun a => !a.onFeed)).2 with auth := f.actAll actions } := by
  induction actions generalizing l f with
  | nil => rfl
  | cons a actions ih =>
      have hcons : ({ l with auth := f }.actAll (a :: actions)).2 =
          (({ l with auth := f }.act a).2.actAll actions).2 := rfl
      have hfeed : f.actAll (a :: actions) = (f.act a).actAll actions := rfl
      cases ha : a.onFeed with
      | true =>
          have hact : ({ l with auth := f }.act a).2 = { l with auth := f.act a } := by
            cases a with
            | report status => rfl
            | closeAuth => rfl
            | _ => cases ha
          rw [hcons, hact, ih, hfeed, List.filter_cons_of_neg (by simp [ha])]
      | false =>
          have hkeep : f.act a = f := by
            cases a with
            | report status => cases ha
            | closeAuth => cases ha
            | _ => rfl
          rw [hcons, act_apart ha, ih, hfeed, hkeep, List.filter_cons_of_pos (by simp [ha])]
          rfl

/-- Batches that leave the same on the feed, and are the same otherwise, lead to one listener. -/
theorem actAll_congr {l : Listener β σ} {as bs : List Action}
    (hfeed : l.auth.actAll as = l.auth.actAll bs)
    (hothers : as.filter (fun a => !a.onFeed) = bs.filter fun a => !a.onFeed) :
    (l.actAll as).2 = (l.actAll bs).2 := by
  have has := actAll_apart as l l.auth
  have hbs := actAll_apart bs l l.auth
  rw [hfeed, hothers] at has
  exact has.trans hbs.symm

theorem actAll_of_interleaved (l : Listener β σ) {as bs : List Action} (h : Interleaved as bs) :
    (l.actAll as).2 = (l.actAll bs).2 := by
  apply actAll_congr _ h.others
  rw [← AuthFeed.actAll_filter_onFeed, h.feed, AuthFeed.actAll_filter_onFeed]

theorem actAll_condense (l : Listener β σ) (actions : List Action) :
    (l.actAll (condense l.auth.isOpen actions)).2 = (l.actAll actions).2 :=
  actAll_congr (l.auth.actAll_condense actions) (filter_condense actions l.auth.isOpen)

/-! ### The status under which things are heard -/

/-- The status under which the session hears the next transcript: the one on the feed, if there is
one that the listener has still to tell, or else the one that the session was told. -/
def status (l : Listener β σ) : Bool :=
  l.news.getD l.session.engine.mode.isAuthenticated

/-- On the way from `l` to `next` the status stays the same, all that is heard is heard under it, and
the listener looks at the feed as long as it is open. -/
structure KeepsStatus (l next : Listener β σ) : Prop where
  isOpen : next.auth.isOpen = l.auth.isOpen
  follows : (l.auth.isOpen = true → l.followsAuth = true) →
    next.auth.isOpen = true → next.followsAuth = true
  status : next.status = l.status
  heard : ∃ new, next.heard = l.heard ++ new ∧ ∀ h ∈ new, h.2.isAuthenticated = l.status

namespace KeepsStatus

variable {l m n : Listener β σ}

theorem refl (l : Listener β σ) : KeepsStatus l l :=
  ⟨rfl, id, rfl, [], (List.append_nil _).symm, by simp⟩

theorem trans (h : KeepsStatus l m) (h' : KeepsStatus m n) : KeepsStatus l n := by
  obtain ⟨new, hm, hnew⟩ := h.heard
  obtain ⟨new', hn, hnew'⟩ := h'.heard
  refine ⟨h'.isOpen.trans h.isOpen, fun hl => h'.follows (h.follows hl),
    h'.status.trans h.status, new ++ new', ?_, ?_⟩
  · rw [hn, hm, List.append_assoc]
  · rw [List.forall_mem_append]
    refine ⟨hnew, ?_⟩
    rw [← h.status]
    exact hnew'

/-- A listener that does nothing but look at the feed or begin a session hears nothing. -/
theorem of_heard_eq (hopen : n.auth.isOpen = l.auth.isOpen)
    (hfollows : (l.auth.isOpen = true → l.followsAuth = true) →
      n.auth.isOpen = true → n.followsAuth = true)
    (hstatus : n.status = l.status) (hheard : n.heard = l.heard) : KeepsStatus l n :=
  ⟨hopen, hfollows, hstatus, [], by rw [hheard, List.append_nil], by simp⟩

end KeepsStatus

/-! ### One turn -/

variable [EditingSurface β] [Services σ] {l next : Listener β σ}

omit [EditingSurface β] [Services σ] in
theorem heard_note_start (capacity : Nat) (l : Listener β σ) :
    (l.note (.start capacity)).heard = l.heard := by
  simp [note, heard, Deed.hear?]

omit [EditingSurface β] [Services σ] in
theorem keepsStatus_begin (l : Listener β σ) : KeepsStatus l l.begin :=
  .of_heard_eq rfl id rfl (heard_note_start l.settings.channelCapacity l)

omit [EditingSurface β] [Services σ] in
/-- The status that the session is told is the one that was on the feed. -/
theorem keepsStatus_syncAuth (h : (l.followsAuth && l.auth.unseen) = true) :
    KeepsStatus l l.syncAuth := by
  refine .of_heard_eq rfl id ?_ (by simp [syncAuth, note, heard, Deed.hear?])
  have hnews : l.news = some l.auth.latest := by rw [news, if_pos h]
  have hnone : l.syncAuth.news = none := by simp [syncAuth, note, news, AuthFeed.seen]
  rw [status, status, hnews, hnone]
  exact Engine.isAuthenticated_setAuthenticated l.auth.latest l.session.engine

omit [EditingSurface β] [Services σ] in
theorem keepsStatus_ignoreAuth (h : (l.followsAuth && l.auth.unseen) = false)
    (hclosed : (l.followsAuth && !l.auth.isOpen) = true) : KeepsStatus l l.ignoreAuth := by
  rw [Bool.and_eq_true, Bool.not_eq_true'] at hclosed
  refine .of_heard_eq rfl (fun _ hopen => ?_) ?_ rfl
  · exact absurd (hclosed.2.symm.trans hopen) (by simp)
  · have hnews : l.news = none := by rw [news, if_neg (by simp [h])]
    have hnone : l.ignoreAuth.news = none := by simp [ignoreAuth, news]
    rw [status, status, hnews, hnone]
    rfl

omit [EditingSurface β] [Services σ] in
theorem keepsStatus_goOn (l : Listener β σ) : KeepsStatus l l.goOn := by
  unfold goOn
  split
  · exact .of_heard_eq rfl id rfl rfl
  · exact .of_heard_eq rfl id rfl rfl

/-- Nothing is on the feed when the session hears something, and hearing does not change the status. -/
theorem keepsStatus_hear (h : (l.followsAuth && l.auth.unseen) = false) (t : Text) (phase : Phase) :
    KeepsStatus l { l.hear t with phase := phase } := by
  have hnews : l.news = none := by rw [news, if_neg (by simp [h])]
  have hstatus : l.status = l.session.engine.mode.isAuthenticated := by rw [status, hnews]; rfl
  refine ⟨rfl, id, ?_, [(t, l.session.engine.mode)], ?_, ?_⟩
  · have hnone : ({ l.hear t with phase := phase } : Listener β σ).news = none := hnews
    rw [hstatus, status, hnone]
    exact Engine.isAuthenticated_handle (.ofText t) l.session.engine
  · simp [hear, note, heard, Deed.hear?]
  · rw [List.forall_mem_singleton]
    exact hstatus.symm

/-- **A turn keeps the status under which things are heard.** -/
theorem keepsStatus_turn (h : l.turn = some next) : KeepsStatus l next := by
  unfold turn at h
  split at h
  · cases h
  · cases h
  · obtain rfl := Option.some.inj h
    exact keepsStatus_begin l
  · split at h
    · obtain rfl := Option.some.inj h
      exact .of_heard_eq rfl id rfl rfl
    split at h
    · next hnews =>
      obtain rfl := Option.some.inj h
      exact keepsStatus_syncAuth hnews
    next hnews =>
    rw [Bool.not_eq_true] at hnews
    split at h
    · next hclosed =>
      obtain rfl := Option.some.inj h
      exact keepsStatus_ignoreAuth hnews hclosed
    split at h
    · obtain rfl := Option.some.inj h
      exact keepsStatus_hear hnews _ _
    · split at h
      · cases h
      · obtain rfl := Option.some.inj h
        exact keepsStatus_goOn l

/-- **So does a listener that comes to rest**, by induction on the work that is left. -/
theorem keepsStatus_settle (l : Listener β σ) : KeepsStatus l l.settle := by
  cases h : l.turn with
  | none =>
      rw [settle_of_idle h]
      exact .refl l
  | some next =>
      rw [settle_of_turn h]
      exact (keepsStatus_turn h).trans (keepsStatus_settle next)
termination_by l.work
decreasing_by exact work_lt_of_turn h

/-! ### Every script -/

/-- Through these actions `l` became `next`, which looks at the feed as long as it is open and hears
under the status that got through last. -/
structure Heeds (actions : List Action) (l next : Listener β σ) : Prop where
  isOpen : next.auth.isOpen = (l.auth.isOpen && decide (.closeAuth ∉ actions))
  follows : next.auth.isOpen = true → next.followsAuth = true
  status : next.status = (l.auth.heeded actions).getLast?.getD l.status

omit [EditingSurface β] [Services σ] in
theorem Heeds.append {as bs : List Action} {l m n : Listener β σ} (h : Heeds as l m)
    (h' : Heeds bs m n) : Heeds (as ++ bs) l n := by
  refine ⟨?_, h'.follows, ?_⟩
  · rw [h'.isOpen, h.isOpen, Bool.and_assoc]
    simp
  · have hheeded : l.auth.heeded (as ++ bs) = l.auth.heeded as ++ m.auth.heeded bs := by
      unfold AuthFeed.heeded
      rw [h.isOpen, statuses_append]
      cases l.auth.isOpen <;> simp
    rw [h'.status, h.status, hheeded, List.getLast?_append]
    cases (m.auth.heeded bs).getLast? <;> rfl

omit [EditingSurface β] [Services σ] in
/-- The actions of a batch change the status as they change the feed, and nothing is heard yet. -/
theorem heeds_actAll (hf : l.auth.isOpen = true → l.followsAuth = true) (actions : List Action) :
    Heeds actions l (l.actAll actions).2 ∧ (l.actAll actions).2.heard = l.heard := by
  have hfeed : (l.actAll actions).2.auth = _ := congrArg Listener.auth (actAll_apart actions l l.auth)
  obtain ⟨auth, control, phase, hframe⟩ := (acted_actAll actions l).frame
  rw [hframe] at hfeed ⊢
  obtain rfl : auth = l.auth.actAll actions := hfeed
  have hopen : (l.auth.actAll actions).isOpen = (l.auth.isOpen && decide (.closeAuth ∉ actions)) := by
    rw [AuthFeed.actAll_eq]
  refine ⟨⟨hopen, fun h => ?_, ?_⟩, rfl⟩
  · rw [hopen, Bool.and_eq_true] at h
    exact hf h.1
  · unfold status news
    rw [AuthFeed.actAll_eq]
    cases hlast : (l.auth.heeded actions).getLast? with
    | none => simp
    | some b =>
        have ho : l.auth.isOpen = true := by
          by_contra hclosed
          simp [AuthFeed.heeded, hclosed] at hlast
        simp [hf ho]

/-- **Whatever is heard in a batch is heard under the latest status.** -/
theorem heeds_batch (hf : l.auth.isOpen = true → l.followsAuth = true) (actions : List Action) :
    Heeds actions l (l.batch actions).2 ∧
      ∃ new, (l.batch actions).2.heard = l.heard ++ new ∧
        ∀ h ∈ new, h.2.isAuthenticated = (l.batch actions).2.status := by
  obtain ⟨hacted, hheard⟩ := heeds_actAll hf actions
  have hsettle := keepsStatus_settle (l.actAll actions).2
  obtain ⟨new, hnew, hunder⟩ := hsettle.heard
  have hbatch : (l.batch actions).2 = (l.actAll actions).2.settle := rfl
  rw [hbatch]
  refine ⟨⟨hsettle.isOpen.trans hacted.isOpen, hsettle.follows hacted.follows,
    hsettle.status.trans hacted.status⟩, new, by rw [hnew, hheard], ?_⟩
  rw [hsettle.status]
  exact hunder

/-- A script changes the status as its actions do, by induction on its batches. -/
theorem heeds_run (script : List (List Action)) (hf : l.auth.isOpen = true → l.followsAuth = true) :
    Heeds script.flatten l (l.run script) := by
  induction script generalizing l with
  | nil => exact ⟨by simp [run], hf, by simp [run, AuthFeed.heeded, statuses]⟩
  | cons actions script ih =>
      have hbatch := (heeds_batch hf actions).1
      exact hbatch.append (ih hbatch.follows)

/-- A listener that has just begun hears under the status with which it began. -/
theorem heeds_start (session : Session β σ) (recognizer : Recognizer) (settings : SpeechSettings)
    (status : Bool) :
    let l := start session recognizer settings status
    l.auth.isOpen = true ∧ l.followsAuth = true ∧ l.status = status ∧
      ∀ h ∈ l.heard, h.2.isAuthenticated = status := by
  have h := keepsStatus_settle (initial session recognizer settings status)
  have hstatus : (initial session recognizer settings status).status = status :=
    Engine.isAuthenticated_setAuthenticated status session.engine
  obtain ⟨new, hnew, hunder⟩ := h.heard
  rw [hstatus] at hunder
  refine ⟨h.isOpen, h.follows (fun _ => rfl) h.isOpen, h.status.trans hstatus, ?_⟩
  show ∀ h ∈ (initial session recognizer settings status).settle.heard, _
  rw [hnew]
  exact hunder

theorem run_cons (actions : List Action) (script : List (List Action)) (l : Listener β σ) :
    l.run (actions :: script) = (l.batch actions).2.run script := rfl

/-- Interleaving the batches of a script differently changes nothing. -/
theorem run_of_interleaved {script script' : List (List Action)}
    (h : List.Forall₂ Interleaved script script') (l : Listener β σ) :
    l.run script = l.run script' := by
  induction h generalizing l with
  | nil => rfl
  | cons hbatch _ ih =>
      have hsame := congrArg settle (actAll_of_interleaved l hbatch)
      rw [run_cons, run_cons, batch, batch]
      dsimp only
      rw [hsame]
      exact ih _

/-- Nor does leaving away, in one batch, the reports that come to nothing. -/
theorem run_of_condensed (before after : List (List Action)) (actions : List Action)
    {isOpen : Bool} (l : Listener β σ) (h : (l.run before).auth.isOpen = isOpen) :
    l.run (before ++ condense isOpen actions :: after) = l.run (before ++ actions :: after) := by
  have hsame : ((l.run before).batch (condense isOpen actions)).2 =
      ((l.run before).batch actions).2 := by
    rw [← h]
    exact congrArg settle (actAll_condense (l.run before) actions)
  rw [run_append, run_append, run_cons, run_cons, hsame]

/-- **The latest status counts, and it counts for all that is heard in its batch.**  Take a script
around a listener over any recognizer.  If the actions on the feed and the other actions of its
batches are interleaved in another way, the listener is the same after each batch: its session with
the mode, the text and the effects on the collaborators, and its log with all attempts to begin a
recognition session.  The same holds if all reports of a batch are left away but the last one before
the feed is closed.  And whatever is heard in a batch is heard in a mode that agrees with the last
status that was reported up to and including this batch and before the feed was closed, or with the
status at the beginning if none was. -/
theorem run_heedsLatest (session : Session β σ) (recognizer : Recognizer)
    (settings : SpeechSettings) (status : Bool) (script : List (List Action)) :
    let l := Listener.start session recognizer settings status
    (∀ script', List.Forall₂ Interleaved script script' →
      ∀ n, l.run (script'.take n) = l.run (script.take n)) ∧
    (∀ before actions after, script = before ++ actions :: after →
      ∀ n, l.run ((before ++ condense (.closeAuth ∉ before.flatten) actions :: after).take n) =
        l.run (script.take n)) ∧
    (∀ h ∈ l.heard, h.2.isAuthenticated = status) ∧
    ∀ before actions after, script = before ++ actions :: after →
      ∃ new, (l.run (before ++ [actions])).heard = (l.run before).heard ++ new ∧
        ∀ h ∈ new, h.2.isAuthenticated =
          (statuses (before.flatten ++ actions)).getLast?.getD status := by
  intro l
  obtain ⟨hopen, hfollows, hstatus, hheard⟩ := heeds_start session recognizer settings status
  have hbefore : ∀ before, Heeds before.flatten l (l.run before) := fun before =>
    heeds_run before fun _ => hfollows
  refine ⟨?_, ?_, hheard, ?_⟩
  · intro script' h n
    exact (run_of_interleaved (List.forall₂_take n h) l).symm
  · rintro before actions after rfl n
    have hisOpen : (l.run before).auth.isOpen = decide (.closeAuth ∉ before.flatten) := by
      rw [(hbefore before).isOpen, show l.auth.isOpen = true from hopen, Bool.true_and]
    obtain hn | ⟨m, rfl⟩ : n ≤ before.length ∨ ∃ m, n = before.length + (m + 1) := by
      obtain hn | hn := Nat.lt_or_ge before.length n
      · exact .inr ⟨n - before.length - 1, by omega⟩
      · exact .inl hn
    · rw [List.take_append_of_le_length hn, List.take_append_of_le_length hn]
    · rw [List.take_length_add_append, List.take_length_add_append, List.take_succ_cons,
        List.take_succ_cons]
      exact run_of_condensed before (after.take m) actions l hisOpen
  · rintro before actions after rfl
    obtain ⟨hbatch, new, hnew, hunder⟩ := heeds_batch (hbefore before).follows actions
    have hlatest := ((hbefore before).append hbatch).status
    rw [AuthFeed.heeded, if_pos hopen, show l.status = status from hstatus] at hlatest
    rw [hlatest] at hunder
    rw [run_append]
    exact ⟨new, hnew, hunder⟩

/-- A batch in which a command comes before the statuses, the same batch with the command last, and
the batch without the reports that come to nothing.  The command is heard after login, and its call
is put in the queue of an outbox. -/
theorem run_heedsLatest_instance :
    let l := Listener.start (Session.start (.start (FixedSurface.mk ⟨1, 1⟩)
      (Outbox.start (FixedServices.mk [] none fun _ => .done)) defaultThreshold))
      (.ofLive 1 .exhausted) .standard false
    let spoken : List Action :=
      [.send "evoke run".toList, .report false, .report true, .closeAuth, .report false]
    let spokenLast : List Action :=
      [.report false, .report true, .closeAuth, .report false, .send "evoke run".toList]
    let condensed : List Action := [.send "evoke run".toList, .report true, .closeAuth]
    List.Forall₂ Interleaved [spoken] [spokenLast] ∧ l.run [spokenLast] = l.run [spoken] ∧
      condense (.closeAuth ∉ ([] : List Action)) spoken = condensed ∧
      l.run [condensed] = l.run [spoken] ∧
      (∃ mode, (l.run [spoken]).heard = [("evoke run".toList, mode)] ∧
        mode.isAuthenticated = true) ∧
      (l.run [spoken]).session.dispatcher.worker.services.queue = [.call .run] := by
  intro l spoken spokenLast condensed
  obtain ⟨hinterleaved, hcondensed, -, hlatest⟩ := run_heedsLatest
    (Session.start (.start (FixedSurface.mk ⟨1, 1⟩)
      (Outbox.start (FixedServices.mk [] none fun _ => .done)) defaultThreshold))
    (.ofLive 1 .exhausted) .standard false [spoken]
  have hshuffled : List.Forall₂ Interleaved [spoken] [spokenLast] :=
    .cons ⟨by decide, by decide⟩ .nil
  have hstart : l = _ := settle_of_starting_live rfl rfl ⟨rfl, rfl⟩ rfl
  have hrun : l.run [spoken] = _ :=
    (congrArg (run [spoken]) hstart).trans (settle_listening rfl rfl)
  obtain ⟨new, hnew, hunder⟩ := hlatest [] spoken [] rfl
  have hheard : (l.run [spoken]).heard = [("evoke run".toList, .commands)] := by
    rw [hrun]
    rfl
  have hmem : ("evoke run".toList, .commands) ∈ new := by
    have hnone : l.heard = [] := by
      rw [hstart]
      rfl
    have hwhole : (l.run [spoken]).heard = l.heard ++ new := hnew
    rw [hnone, List.nil_append] at hwhole
    rw [← hwhole, hheard]
    exact List.mem_singleton_self _
  refine ⟨hshuffled, hinterleaved _ hshuffled 1, by decide, hcondensed [] spoken [] rfl 1,
    ⟨_, hheard, hunder _ hmem⟩, ?_⟩
  rw [hrun]
  rfl

end Listener
end SpokenEditor
