/-!
# The feed of the authentication status

The listener follows the authentication status over a feed that keeps the latest status only and
knows whether the listener has seen it. After the feed was closed no further status comes, but the
last one is still seen.
-/

namespace SpokenEditor

/-- The latest authentication status on its way to the listener. -/
structure AuthFeed where
  latest : Bool
  /-- Whether the listener has not seen the latest status. -/
  unseen : Bool
  isOpen : Bool
  deriving DecidableEq, Repr

namespace AuthFeed

/-- A feed whose status has been seen. -/
def ofStatus (status : Bool) : AuthFeed :=
  ⟨status, false, true⟩

/-- Report a status; a closed feed ignores it. -/
def report (status : Bool) (f : AuthFeed) : AuthFeed :=
  if f.isOpen then { f with latest := status, unseen := true } else f

/-- Close the feed. -/
def close (f : AuthFeed) : AuthFeed :=
  { f with isOpen := false }

/-- The feed when its status has been seen. -/
def seen (f : AuthFeed) : AuthFeed :=
  { f with unseen := false }

/-- Of several reports only the last counts. -/
theorem report_report (a b : Bool) (f : AuthFeed) : (f.report a).report b = f.report b := by
  cases h : f.isOpen <;> simp [report, h]

/-- A closed feed ignores reports. -/
theorem report_close (b : Bool) (f : AuthFeed) : f.close.report b = f.close := rfl

end AuthFeed

end SpokenEditor
