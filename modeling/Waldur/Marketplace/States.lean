/-
# Lifecycle state machines

The `django_fsm` transitions of offerings, orders, order items and resources. A transition lists
the states it may start from, or takes the wildcard `'*'`, and names the state it moves
to. Called from any other state it raises `TransitionNotAllowed` and leaves the field
as it was. Every method below is one instance of `transition`, written with the source
and target lists of `marketplace/models.py`.
-/

import Waldur.Core.Program

namespace Waldur

/-- `Order.States`. -/
inductive OrderState
  | requestedForApproval | executing | done | terminated | erred | rejected
  deriving DecidableEq, Repr

/-- `OrderItem.States`. -/
inductive OrderItemState
  | pending | executing | done | erred | terminated | terminating
  deriving DecidableEq, Repr

/-- `Resource.States`. -/
inductive ResourceState
  | creating | ok | erred | updating | terminating | terminated
  deriving DecidableEq, Repr

/-- `Offering.States`. -/
inductive OfferingState
  | draft | active | paused | archived
  deriving DecidableEq, Repr

/-- `RequestTypeMixin.Types`. -/
inductive RequestType
  | create | update | terminate
  deriving DecidableEq, Repr

/-- The integer the `state` column stores. -/
def OfferingState.code : OfferingState → Nat
  | .draft => 1 | .active => 2 | .paused => 3 | .archived => 4

/-- The integer the `state` column stores. -/
def OrderState.code : OrderState → Nat
  | .requestedForApproval => 1 | .executing => 2 | .done => 3
  | .terminated => 4 | .erred => 5 | .rejected => 6

/-- The integer the `state` column stores. -/
def OrderItemState.code : OrderItemState → Nat
  | .pending => 1 | .executing => 2 | .done => 3
  | .erred => 4 | .terminated => 5 | .terminating => 6

/-- The integer the `state` column stores. -/
def ResourceState.code : ResourceState → Nat
  | .creating => 1 | .ok => 2 | .erred => 3
  | .updating => 4 | .terminating => 5 | .terminated => 6

/-- The `source` argument of `@transition`: the listed states, or the wildcard `'*'`. -/
inductive Source (σ : Type)
  | states (allowed : List σ)
  | any

/-- Whether a transition may start from a state. -/
def Source.admits {σ : Type} [DecidableEq σ] : Source σ → σ → Bool
  | .states allowed, current => allowed.contains current
  | .any, _ => true

/-- A `django_fsm` transition method named `method`: from an admitted state it moves the
field to `target`, from any other it raises `TransitionNotAllowed`. -/
def transition {σ : Type} [DecidableEq σ] (code : σ → Nat) (method : String)
    (source : Source σ) (target : σ) (current : σ) : Except Error σ :=
  if source.admits current then .ok target
  else .error (.transitionNotAllowed (code current) method)

theorem transition_eq_ok {σ : Type} [DecidableEq σ] {code : σ → Nat} {method : String}
    {source : Source σ} {target current next : σ} :
    transition code method source target current = .ok next ↔
      source.admits current ∧ next = target := by
  by_cases h : source.admits current
  · simp only [transition, h, if_true, Except.ok.injEq, true_and]
    exact eq_comm
  · simp [transition, h]

/-- A wildcard transition never raises. -/
@[simp] theorem transition_any {σ : Type} [DecidableEq σ] (code : σ → Nat) (method : String)
    (target current : σ) : transition code method .any target current = .ok target := rfl

/-! The transitions of `Offering` sit in the model's namespace: `OfferingState.draft` is
already the state that the method `draft` moves to. -/

namespace Offering

def activate := transition OfferingState.code "activate" (.states [.draft, .paused]) .active
def pause := transition OfferingState.code "pause" (.states [.active]) .paused
def unpause := transition OfferingState.code "unpause" (.states [.paused]) .active
def archive := transition OfferingState.code "archive" .any .archived
def draft := transition OfferingState.code "draft" .any .draft

end Offering

namespace OrderState

def approve := transition code "approve" (.states [requestedForApproval]) executing
def complete := transition code "complete" (.states [executing]) done
def terminate := transition code "terminate" .any terminated
def reject := transition code "reject" (.states [requestedForApproval]) rejected
def fail := transition code "fail" .any erred

end OrderState

namespace OrderItemState

def setStateExecuting := transition code "set_state_executing" (.states [pending, erred]) executing
def setStateDone := transition code "set_state_done" (.states [executing]) done
def setStateErred := transition code "set_state_erred" .any erred
def setStateTerminated := transition code "set_state_terminated" .any terminated
def setStateTerminating :=
  transition code "set_state_terminating" (.states [pending, executing]) terminating

/-- The states `set_state_executing` starts from. -/
def canExecute (state : OrderItemState) : Bool := state == pending || state == erred

theorem setStateExecuting_eq_ok {state next : OrderItemState} :
    setStateExecuting state = .ok next ↔ canExecute state ∧ next = executing := by
  rw [setStateExecuting, transition_eq_ok]
  cases state <;> simp [Source.admits, canExecute]

theorem setStateExecuting_of_not_canExecute {state : OrderItemState}
    (h : canExecute state = false) :
    setStateExecuting state = .error (.transitionNotAllowed state.code "set_state_executing") := by
  cases state <;> simp_all [setStateExecuting, transition, Source.admits, canExecute]

end OrderItemState

namespace ResourceState

def setStateOk := transition code "set_state_ok" (.states [erred, creating, updating]) ok
def setStateErred := transition code "set_state_erred" .any erred
def setStateUpdating := transition code "set_state_updating" .any updating
def setStateTerminating := transition code "set_state_terminating" .any terminating
def setStateTerminated := transition code "set_state_terminated" .any terminated

end ResourceState

end Waldur
