import SpokenEditor.Service.Call

/-!
# The worker

Calls to the services are carried out by a worker, in the order in which they were submitted.
Failures are left alone. A call in which a service breaks down ends the worker: calls submitted
later are dropped.

* `submit_of_not_alive`: a worker that has ended changes nothing.
* `alive_of_alive_submit`: a worker never comes back.
-/

namespace SpokenEditor

/-- The services as their worker left them, and whether it still works. -/
structure Worker (σ : Type) where
  services : σ
  alive : Bool

namespace Worker

variable {σ : Type} [Services σ]

/-- The calls that reach the services when `c` is submitted, and the worker afterwards. -/
def submit (c : Call) (w : Worker σ) : List Call × Worker σ :=
  if w.alive then
    let (reply, services) := Services.perform c w.services
    ([c], ⟨services, reply != .broken⟩)
  else ([], w)

/-- A call that is submitted reaches the services, unless the worker has ended. -/
theorem fst_submit (c : Call) (w : Worker σ) : (w.submit c).1 = if w.alive then [c] else [] := by
  rw [submit]
  split <;> rfl

/-- A worker that has ended changes nothing. -/
theorem submit_of_not_alive {w : Worker σ} (h : w.alive = false) (c : Call) :
    w.submit c = ([], w) := by
  rw [submit, h]
  rfl

/-- A worker never comes back. -/
theorem alive_of_alive_submit {w : Worker σ} {c : Call} (h : (w.submit c).2.alive = true) :
    w.alive = true := by
  cases hw : w.alive with
  | true => rfl
  | false => rw [submit_of_not_alive hw, hw] at h; exact h

end Worker

end SpokenEditor
