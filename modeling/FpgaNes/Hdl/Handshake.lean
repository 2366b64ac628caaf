import Mathlib.Data.Nat.Notation

/-!
# Toggle handshakes

A requester and a server in two clock domains share a pair of flags. The requester
toggles its flag to ask; the server sees a request while the flags differ, and toggles
its own to answer. Two requests made before the first is answered cancel each other,
so the protocol is sound only while no request overruns an unanswered one.
-/

namespace FpgaNes.Hdl

/-- The two flags of a handshake. -/
structure Handshake where
  /-- The bit of the side that asks. -/
  request : Bool
  /-- The bit of the side that answers. -/
  handle : Bool
  deriving DecidableEq

namespace Handshake

/-- A request is waiting. -/
def pending (pair : Handshake) : Bool := pair.request ^^ pair.handle

/-- The server answers on this step. -/
def served (pair : Handshake) (ready : Bool) : Bool := pair.pending && ready

/-- One step: the requester may ask, the server answers a waiting request when ready.
Both act on the flags as they were before the step. -/
def step (pair : Handshake) (ask ready : Bool) : Handshake where
  request := pair.request ^^ ask
  handle := pair.handle ^^ pair.served ready

/-- What is waiting after a step: a new request, or one left unanswered, but not both. -/
theorem pending_step (pair : Handshake) (ask ready : Bool) :
    (pair.step ask ready).pending = (ask ^^ (pair.pending && !ready)) := by
  obtain ⟨request, handle⟩ := pair
  cases request <;> cases handle <;> cases ask <;> cases ready <;> rfl

/-- The server's flag moves exactly when it answers. -/
theorem handle_step (pair : Handshake) (ask ready : Bool) :
    ((pair.step ask ready).handle ≠ pair.handle) ↔ pair.served ready = true := by
  obtain ⟨request, handle⟩ := pair
  cases request <;> cases handle <;> cases ask <;> cases ready <;> decide

/-- What was waiting and what is asked for is answered, or waits, or is lost in pairs: a request
made while one is left unanswered takes it back. -/
theorem balance_step (pair : Handshake) (ask ready : Bool) :
    pair.pending.toNat + ask.toNat =
      (pair.served ready).toNat + (pair.step ask ready).pending.toNat +
        2 * (ask && (pair.pending && !ready)).toNat := by
  rw [pending_step, served]
  cases ask <;> cases pair.pending <;> cases ready <;> rfl

end Handshake

end FpgaNes.Hdl
