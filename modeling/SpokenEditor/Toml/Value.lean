import SpokenEditor.Number.Binary64
import SpokenEditor.Text.Basic

/-!
# Values of a settings file

A settings file in the TOML format holds a tree of values. A table remembers how it was written,
because that decides what may still be added to it.

* `put_of_lookup`: a key that is there is not written again.
-/

namespace SpokenEditor.Toml

/-- How a table was written. -/
inductive TableKind where
  /-- Under a header of its own. -/
  | headed
  /-- Only on the way to another header. -/
  | implied
  /-- On the way of a dotted key. -/
  | dotted
  /-- Between braces. -/
  | inline
  deriving DecidableEq, Repr

/-- A value. -/
inductive Value where
  | text (t : Text)
  | integer (n : Int)
  | float (x : Binary64)
  /-- A numeral that is well formed, but is not the one of a number that can be held. -/
  | unreadable
  | boolean (b : Bool)
  /-- A date, a time, or both. -/
  | moment
  | array (items : List Value)
  | table (kind : TableKind) (entries : List (Text × Value))
  /-- The tables under repeated headers of double brackets; the last one is still written. -/
  | tables (earlier : List Value) (last : List (Text × Value))

/-- The entries of a table, in the order in which they were written. -/
abbrev Entries := List (Text × Value)

/-! ### Readable values

A numeral that cannot be read is an error wherever the value is looked at, even if it is ignored. -/

mutual

/-- Whether all numerals in the value can be read. -/
def Value.isReadable : Value → Bool
  | .unreadable => false
  | .array items => areReadable items
  | .table _ es => entriesAreReadable es
  | .tables earlier last => areReadable earlier && entriesAreReadable last
  | .text _ | .integer _ | .float _ | .boolean _ | .moment => true

/-- Whether all numerals in the values can be read. -/
def areReadable : List Value → Bool
  | [] => true
  | v :: vs => v.isReadable && areReadable vs

/-- Whether all numerals in the entries can be read. -/
def entriesAreReadable : List (Text × Value) → Bool
  | [] => true
  | (_, v) :: es => v.isReadable && entriesAreReadable es

end

/-! ### Adding to tables -/

namespace Entries

/-- Change what stands under a key; `f` tells what stands there afterwards, if that is allowed. -/
def modify (key : Text) (f : Option Value → Option Value) : Entries → Option Entries
  | [] => (f none).map fun v => [(key, v)]
  | (k, v) :: es =>
    if k = key then (f (some v)).map fun w => (k, w) :: es
    else (modify key f es).map fun es => (k, v) :: es

/-- Allow a value only where none stands yet. -/
def fresh (v : Value) : Option Value → Option Value
  | none => some v
  | some _ => none

/-- Change the table that stands on the way of a path. A dotted key does not go through a table
with a header of its own, and nothing goes through a table between braces. -/
def pass (dotted : Bool) (f : Entries → Option Entries) : Option Value → Option Value
  | none => (f []).map (.table (if dotted then .dotted else .implied))
  | some (.table .inline _) => none
  | some (.table .headed es) => if dotted then none else (f es).map (.table .headed)
  | some (.table kind es) => (f es).map (.table kind)
  | some (.tables earlier last) => (f last).map (.tables earlier)
  | some _ => none

/-- Change the table that a dotted key writes to. It must be one that only dotted keys wrote. -/
def own (f : Entries → Option Entries) : Option Value → Option Value
  | none => (f []).map (.table .dotted)
  | some (.table .dotted es) => (f es).map (.table .dotted)
  | some _ => none

/-- Write a value under a dotted key. -/
def put (v : Value) : List Text → Entries → Option Entries
  | [], _ => none
  | [key], es => es.modify key (fresh v)
  | [key, last], es => es.modify key (own fun es => es.modify last (fresh v))
  | key :: path, es => es.modify key (pass true (put v path))

/-- Write values under dotted keys, in order. -/
def putAll : List (List Text × Value) → Entries → Option Entries
  | [], es => some es
  | (path, v) :: rest, es => (es.put v path).bind (putAll rest)

/-- Change what stands under the last key of a header. -/
def under (f : Option Value → Option Value) : List Text → Entries → Option Entries
  | [], _ => none
  | [key], es => es.modify key f
  | key :: path, es => es.modify key (pass false (under f path))

/-- The table that a header begins. -/
def head (f : Entries → Option Entries) : Option Value → Option Value
  | none => (f []).map (.table .headed)
  | some (.table .implied es) => (f es).map (.table .headed)
  | some _ => none

/-- The table that a header of double brackets adds. -/
def extend (f : Entries → Option Entries) : Option Value → Option Value
  | none => (f []).map (.tables [])
  | some (.tables earlier last) => (f []).map (.tables (earlier ++ [.table .headed last]))
  | some _ => none

/-- A key that is there is not written again. -/
theorem put_of_lookup {key : Text} {v w : Value} : ∀ {es : Entries}, es.lookup key = some w →
    es.put v [key] = none
  | [], h => absurd h nofun
  | (k, u) :: es, h => by
    rw [put, modify]
    split
    · rfl
    · next hk =>
      have hrest : es.lookup key = some w := by
        rw [List.lookup_cons, beq_false_of_ne (Ne.symm hk)] at h
        exact h
      have := put_of_lookup (v := v) hrest
      rw [put] at this
      rw [this]
      rfl

end Entries

end SpokenEditor.Toml
