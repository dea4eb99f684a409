import SpokenEditor.Text.Basic

/-!
# Channels

Transcripts reach a session over a channel: a queue that takes a bounded number of unread
transcripts while it is open. What was taken before the channel closes can still be read. The
places of a channel are counted, and whoever asks for more than can be counted panics.

* `send_eq_sent_iff`: when a transcript is taken, and what that leaves.
* `open?_of_pos`: which channels are opened.
* `recorded?_eq`: a channel for recorded transcripts has places for all of them, if it is opened.
-/

namespace SpokenEditor

/-- A queue of transcripts. -/
structure Channel where
  /-- The transcripts taken but not read, oldest first. -/
  unread : List Text
  /-- How many transcripts may be unread. -/
  capacity : Nat
  isOpen : Bool
  deriving DecidableEq, Repr

/-- What becomes of a transcript that is sent. -/
inductive Delivery where
  | sent
  /-- The channel holds as many unread transcripts as it may. -/
  | full
  /-- There is no open channel. -/
  | closed
  deriving DecidableEq, Repr

/-- Why a transcript was refused, if it was. -/
def Delivery.refusal? : Delivery → Option Text
  | sent => none
  | full => some "no available capacity".toList
  | closed => some "channel closed".toList

namespace Channel

/-- The most places that a channel has: they are counted with 61 bits. -/
def maxCapacity : Nat :=
  Nat.pow 2 61 - 1

/-- A single place is not too many. -/
theorem max_one_le_maxCapacity_iff {capacity : Nat} :
    max 1 capacity ≤ maxCapacity ↔ capacity ≤ maxCapacity :=
  Nat.max_le.trans (and_iff_right (by decide))

/-- Open a channel with so many places; asking for none, or for more than there may be, is a panic
and opens no channel. -/
def open? (places : Nat) : Option Channel :=
  if 1 ≤ places ∧ places ≤ maxCapacity then some ⟨[], places, true⟩ else none

/-- An open channel of at least one place. -/
def ofCapacity? (capacity : Nat) : Option Channel :=
  open? (max 1 capacity)

/-- Who asks for a place at least gets a channel exactly if there may be one with so many. -/
theorem open?_of_pos {places : Nat} (h : 1 ≤ places) :
    open? places = if places ≤ maxCapacity then some ⟨[], places, true⟩ else none := by
  simp only [open?, h, true_and]

/-- The channel once everything is read. -/
def emptied (c : Channel) : Channel :=
  { c with unread := [] }

/-- The channel closed to further transcripts. -/
def close (c : Channel) : Channel :=
  { c with isOpen := false }

/-- Send a transcript. -/
def send (t : Text) (c : Channel) : Delivery × Channel :=
  if c.isOpen = false then (.closed, c)
  else if c.capacity ≤ c.unread.length then (.full, c)
  else (.sent, { c with unread := c.unread ++ [t] })

/-- An open channel with a place left takes a transcript, at the end; nothing else does. -/
theorem send_eq_sent_iff {t : Text} {c c' : Channel} :
    c.send t = (.sent, c') ↔ c.isOpen = true ∧ c.unread.length < c.capacity ∧
      c' = { c with unread := c.unread ++ [t] } := by
  rw [send]
  split
  · next h => exact ⟨nofun, fun ⟨ho, _⟩ => absurd (h.symm.trans ho) nofun⟩
  · next h =>
    rw [Bool.not_eq_false] at h
    split
    · next hc => exact ⟨nofun, fun ⟨_, hl, _⟩ => absurd hl (Nat.not_lt.2 hc)⟩
    · next hc =>
      exact ⟨fun e => ⟨h, Nat.not_le.1 hc, (Prod.mk.inj e).2.symm⟩, fun ⟨_, _, e⟩ => by rw [e]⟩

/-- Send transcripts, one after the other, up to the first that is refused. -/
def sendAll : List Text → Channel → Delivery × Channel
  | [], c => (.sent, c)
  | t :: ts, c =>
    match c.send t with
    | (.sent, c) => sendAll ts c
    | refused => refused

/-- An open channel with places for all of them takes all transcripts. -/
theorem sendAll_eq_sent : ∀ (ts : List Text) (c : Channel), c.isOpen = true →
    c.unread.length + ts.length ≤ c.capacity →
    c.sendAll ts = (.sent, { c with unread := c.unread ++ ts })
  | [], c, _, _ => by rw [sendAll, List.append_nil]
  | t :: ts, c, ho, hc => by
    rw [List.length_cons] at hc
    have hsend : c.send t = (.sent, { c with unread := c.unread ++ [t] }) :=
      send_eq_sent_iff.2 ⟨ho, by omega, rfl⟩
    have hplaces : (c.unread ++ [t]).length + ts.length ≤ c.capacity := by
      rw [List.length_append, List.length_singleton]
      omega
    have ih := sendAll_eq_sent ts { c with unread := c.unread ++ [t] } ho hplaces
    rw [List.append_assoc] at ih
    rw [sendAll, hsend]
    exact ih

/-- A channel to which recorded transcripts were sent before it was closed. -/
def recorded? (transcripts : List Text) (capacity : Nat) : Option (Delivery × Channel) :=
  (open? (max (max 1 capacity) transcripts.length)).map fun c =>
    let (delivery, c) := c.sendAll transcripts
    (delivery, c.close)

/-- A channel for recorded transcripts has places for all of them, if it is opened. -/
theorem recorded?_eq (transcripts : List Text) (capacity : Nat) :
    recorded? transcripts capacity =
      if max (max 1 capacity) transcripts.length ≤ maxCapacity then
        some (.sent, ⟨transcripts, max (max 1 capacity) transcripts.length, false⟩)
      else none := by
  have hplaces : 0 + transcripts.length ≤ max (max 1 capacity) transcripts.length := by omega
  have hsent := sendAll_eq_sent transcripts ⟨[], _, true⟩ rfl hplaces
  rw [recorded?, open?_of_pos (by omega)]
  split
  · rw [Option.map_some, hsent]
    rfl
  · rfl

end Channel

end SpokenEditor
