/-
# Runs of the lifecycle state machines

The state of an offering, an order, an order item or a resource changes only through the
`django_fsm` transitions of `States`. This module follows one object's state over any
sequence of transition calls. A call from a state its decorator does not list raises
`TransitionNotAllowed` and changes nothing, whether the caller catches the exception or the
request's transaction rolls back, so a run is the final state and the calls that went
through. One counting lemma over runs gives what the marketplace relies on, for every
sequence of calls and every starting state: an order is approved or rejected at most once,
an order item is marked done once per execution, a resource is set OK once per creation,
failure or update, and an offering goes live once per draft or pause. An archived offering
comes back only through `draft`.
-/

import Mathlib.Tactic.DeriveFintype
import Waldur.Marketplace.States

namespace Waldur

deriving instance Fintype for OfferingState
deriving instance Fintype for OrderState
deriving instance Fintype for OrderItemState
deriving instance Fintype for ResourceState

/-- The state and the calls that went through, after calling `calls` in order from `s`; a
call that raises leaves the state as it was. -/
def runCalls {σ μ : Type} (call : μ → σ → Except Error σ) :
    List μ → σ → σ × List μ
  | [], s => (s, [])
  | m :: ms, s =>
      match call m s with
      | .ok s' => ((runCalls call ms s').1, m :: (runCalls call ms s').2)
      | .error _ => runCalls call ms s

/-- A state field and its transition methods, each with the `source` and `target` of its
`@transition` decorator. -/
structure Machine (σ μ : Type) where
  code : σ → Nat
  name : μ → String
  source : μ → Source σ
  target : μ → σ

namespace Machine

variable {σ μ : Type} [DecidableEq σ] (M : Machine σ μ)

/-- Calling the method `m`. -/
def call (m : μ) : σ → Except Error σ := transition M.code (M.name m) (M.source m) (M.target m)

theorem runCalls_cons_of_admits {m : μ} {s : σ} (h : (M.source m).admits s) (ms : List μ) :
    runCalls M.call (m :: ms) s =
      ((runCalls M.call ms (M.target m)).1, m :: (runCalls M.call ms (M.target m)).2) := by
  simp [runCalls, call, transition, h]

theorem runCalls_cons_of_not_admits {m : μ} {s : σ} (h : (M.source m).admits s = false)
    (ms : List μ) : runCalls M.call (m :: ms) s = runCalls M.call ms s := by
  simp [runCalls, call, transition, h]

/-- The counting lemma. The methods `leave` start only in states of `S` and end outside it,
and every method that ends in `S` is one of `enter`. Over any run, the calls of `leave`
that went through, and one more if the run ends in `S`, are at most the calls of `enter`
that went through, and one more if it started in `S`. -/
theorem countP_leave_le (S : σ → Prop) [DecidablePred S] (leave enter : μ → Bool)
    (hsource : ∀ m s, leave m → (M.source m).admits s → S s)
    (htarget : ∀ m, leave m → ¬S (M.target m))
    (henter : ∀ m, S (M.target m) → enter m) (calls : List μ) (s : σ) :
    (runCalls M.call calls s).2.countP leave + (if S (runCalls M.call calls s).1 then 1 else 0)
      ≤ (runCalls M.call calls s).2.countP enter + if S s then 1 else 0 := by
  induction calls generalizing s with
  | nil => simp [runCalls]
  | cons m ms ih =>
    by_cases h : (M.source m).admits s
    · have step := ih (M.target m)
      rw [runCalls_cons_of_admits M h]
      simp only [List.countP_cons]
      by_cases hl : leave m
      · rw [if_pos hl, if_pos (hsource m s hl h)]
        rw [if_neg (htarget m hl)] at step
        omega
      · rw [if_neg hl]
        by_cases hS : S (M.target m)
        · rw [if_pos hS] at step
          rw [if_pos (henter m hS)]
          omega
        · rw [if_neg hS] at step
          omega
    · rw [runCalls_cons_of_not_admits M (by simpa using h)]
      exact ih s

/-- From a state of `C`, every call that goes through either stays in `C` or is one of
`exits`. Then a run from `C` ends in `C`, or one of `exits` went through. -/
theorem runCalls_fst_or_exits (C : σ → Prop) (exits : μ → Prop)
    (hkeep : ∀ m s, C s → (M.source m).admits s → C (M.target m) ∨ exits m)
    (calls : List μ) (s : σ) (hs : C s) :
    C (runCalls M.call calls s).1 ∨ ∃ m ∈ (runCalls M.call calls s).2, exits m := by
  induction calls generalizing s with
  | nil => exact .inl hs
  | cons m ms ih =>
    by_cases h : (M.source m).admits s
    · rw [runCalls_cons_of_admits M h]
      rcases hkeep m s hs h with hC | hexit
      · rcases ih _ hC with hfinal | ⟨m', hm', hexit⟩
        · exact .inl hfinal
        · exact .inr ⟨m', List.mem_cons_of_mem m hm', hexit⟩
      · exact .inr ⟨m, List.mem_cons_self m _, hexit⟩
    · rw [runCalls_cons_of_not_admits M (by simpa using h)]
      exact ih s hs

end Machine

/-! ## Offerings -/

/-- The transition methods of `Offering`. -/
inductive OfferingMethod
  | activate | pause | unpause | archive | draft
  deriving DecidableEq, Repr, Fintype

/-- Calling a transition method of `Offering`. -/
def OfferingMethod.call : OfferingMethod → OfferingState → Except Error OfferingState
  | .activate => Offering.activate
  | .pause => Offering.pause
  | .unpause => Offering.unpause
  | .archive => Offering.archive
  | .draft => Offering.draft

/-- The methods that make an offering active. -/
def OfferingMethod.goesLive : OfferingMethod → Bool
  | .activate | .unpause => true
  | _ => false

/-- The methods that move an offering into a state it can be made active from. -/
def OfferingMethod.pausesOrDrafts : OfferingMethod → Bool
  | .pause | .draft => true
  | _ => false

/-- The decorators of the `Offering` transitions. -/
def offeringMachine : Machine OfferingState OfferingMethod where
  code := OfferingState.code
  name
    | .activate => "activate" | .pause => "pause" | .unpause => "unpause"
    | .archive => "archive" | .draft => "draft"
  source
    | .activate => .states [.draft, .paused]
    | .pause => .states [.active]
    | .unpause => .states [.paused]
    | .archive | .draft => .any
  target
    | .activate | .unpause => .active | .pause => .paused
    | .archive => .archived | .draft => .draft

theorem offeringMachine_call : offeringMachine.call = OfferingMethod.call := by
  funext m
  cases m <;> rfl

/-- Over any sequence of calls, an offering is made active at most once per pause or
draft that went through, and once more if it started as a draft or paused. -/
theorem offering_live_once_per_pause_or_draft (calls : List OfferingMethod)
    (s : OfferingState) :
    (runCalls OfferingMethod.call calls s).2.countP OfferingMethod.goesLive ≤
      (runCalls OfferingMethod.call calls s).2.countP OfferingMethod.pausesOrDrafts +
        if s = .draft ∨ s = .paused then 1 else 0 := by
  have h := offeringMachine.countP_leave_le (fun s => s = .draft ∨ s = .paused)
    OfferingMethod.goesLive OfferingMethod.pausesOrDrafts (by decide) (by decide) (by decide)
    calls s
  rw [offeringMachine_call] at h
  exact Nat.le_of_add_right_le h

/-- Over any sequence of calls, an archived offering stays archived until a `draft` call
goes through: `activate`, `pause` and `unpause` all refuse it. -/
theorem archived_offering_returns_only_through_draft (calls : List OfferingMethod) :
    (runCalls OfferingMethod.call calls .archived).1 = .archived ∨
      .draft ∈ (runCalls OfferingMethod.call calls .archived).2 := by
  have h := offeringMachine.runCalls_fst_or_exits (· = .archived) (· = .draft) (by decide)
    calls .archived rfl
  rw [offeringMachine_call] at h
  rcases h with h | ⟨_, hm, rfl⟩
  · exact .inl h
  · exact .inr hm

/-! ## Orders -/

/-- The transition methods of `Order`. -/
inductive OrderMethod
  | approve | complete | terminate | reject | fail
  deriving DecidableEq, Repr, Fintype

/-- Calling a transition method of `Order`. -/
def OrderMethod.call : OrderMethod → OrderState → Except Error OrderState
  | .approve => OrderState.approve
  | .complete => OrderState.complete
  | .terminate => OrderState.terminate
  | .reject => OrderState.reject
  | .fail => OrderState.fail

/-- The methods that decide a requested order. -/
def OrderMethod.decides : OrderMethod → Bool
  | .approve | .reject => true
  | _ => false

/-- The decorators of the `Order` transitions. -/
def orderMachine : Machine OrderState OrderMethod where
  code := OrderState.code
  name
    | .approve => "approve" | .complete => "complete" | .terminate => "terminate"
    | .reject => "reject" | .fail => "fail"
  source
    | .approve | .reject => .states [.requestedForApproval]
    | .complete => .states [.executing]
    | .terminate | .fail => .any
  target
    | .approve => .executing | .complete => .done | .terminate => .terminated
    | .reject => .rejected | .fail => .erred

theorem orderMachine_call : orderMachine.call = OrderMethod.call := by
  funext m
  cases m <;> rfl

/-- Over any sequence of calls, an order is approved or rejected at most once, and never
once it has left `requested for approval`. -/
theorem order_decided_at_most_once (calls : List OrderMethod) (s : OrderState) :
    (runCalls OrderMethod.call calls s).2.countP OrderMethod.decides ≤
      if s = .requestedForApproval then 1 else 0 := by
  have h := orderMachine.countP_leave_le (· = .requestedForApproval) OrderMethod.decides
    (fun _ => false) (by decide) (by decide) (by decide) calls s
  rw [orderMachine_call, List.countP_false, Function.const_apply, Nat.zero_add] at h
  exact Nat.le_of_add_right_le h

/-! ## Order items -/

/-- The transition methods of `OrderItem`. -/
inductive OrderItemMethod
  | setStateExecuting | setStateDone | setStateErred | setStateTerminated
  | setStateTerminating
  deriving DecidableEq, Repr, Fintype

/-- Calling a transition method of `OrderItem`. -/
def OrderItemMethod.call : OrderItemMethod → OrderItemState → Except Error OrderItemState
  | .setStateExecuting => OrderItemState.setStateExecuting
  | .setStateDone => OrderItemState.setStateDone
  | .setStateErred => OrderItemState.setStateErred
  | .setStateTerminated => OrderItemState.setStateTerminated
  | .setStateTerminating => OrderItemState.setStateTerminating

/-- The decorators of the `OrderItem` transitions. -/
def orderItemMachine : Machine OrderItemState OrderItemMethod where
  code := OrderItemState.code
  name
    | .setStateExecuting => "set_state_executing" | .setStateDone => "set_state_done"
    | .setStateErred => "set_state_erred" | .setStateTerminated => "set_state_terminated"
    | .setStateTerminating => "set_state_terminating"
  source
    | .setStateExecuting => .states [.pending, .erred]
    | .setStateDone => .states [.executing]
    | .setStateErred | .setStateTerminated => .any
    | .setStateTerminating => .states [.pending, .executing]
  target
    | .setStateExecuting => .executing | .setStateDone => .done
    | .setStateErred => .erred | .setStateTerminated => .terminated
    | .setStateTerminating => .terminating

theorem orderItemMachine_call : orderItemMachine.call = OrderItemMethod.call := by
  funext m
  cases m <;> rfl

/-- Over any sequence of calls, an order item is marked done at most once per
`set_state_executing` that went through, and once more if it started executing. -/
theorem item_done_once_per_execution (calls : List OrderItemMethod) (s : OrderItemState) :
    (runCalls OrderItemMethod.call calls s).2.count .setStateDone ≤
      (runCalls OrderItemMethod.call calls s).2.count .setStateExecuting +
        if s = .executing then 1 else 0 := by
  have h := orderItemMachine.countP_leave_le (· = .executing) (· == .setStateDone)
    (· == .setStateExecuting) (by decide) (by decide) (by decide) calls s
  rw [orderItemMachine_call] at h
  exact Nat.le_of_add_right_le h

/-! ## Resources -/

/-- The transition methods of `Resource`. -/
inductive ResourceMethod
  | setStateOk | setStateErred | setStateUpdating | setStateTerminating | setStateTerminated
  deriving DecidableEq, Repr, Fintype

/-- Calling a transition method of `Resource`. -/
def ResourceMethod.call : ResourceMethod → ResourceState → Except Error ResourceState
  | .setStateOk => ResourceState.setStateOk
  | .setStateErred => ResourceState.setStateErred
  | .setStateUpdating => ResourceState.setStateUpdating
  | .setStateTerminating => ResourceState.setStateTerminating
  | .setStateTerminated => ResourceState.setStateTerminated

/-- The decorators of the `Resource` transitions. -/
def resourceMachine : Machine ResourceState ResourceMethod where
  code := ResourceState.code
  name
    | .setStateOk => "set_state_ok" | .setStateErred => "set_state_erred"
    | .setStateUpdating => "set_state_updating"
    | .setStateTerminating => "set_state_terminating"
    | .setStateTerminated => "set_state_terminated"
  source
    | .setStateOk => .states [.erred, .creating, .updating]
    | _ => .any
  target
    | .setStateOk => .ok | .setStateErred => .erred | .setStateUpdating => .updating
    | .setStateTerminating => .terminating | .setStateTerminated => .terminated

theorem resourceMachine_call : resourceMachine.call = ResourceMethod.call := by
  funext m
  cases m <;> rfl

/-- The methods that move a resource into a state `set_state_ok` starts from. -/
def ResourceMethod.failsOrUpdates : ResourceMethod → Bool
  | .setStateErred | .setStateUpdating => true
  | _ => false

/-- Over any sequence of calls, a resource is set OK at most once per failure or update
that went through, and once more if it started creating, erred or updating. -/
theorem resource_ok_once_per_change (calls : List ResourceMethod) (s : ResourceState) :
    (runCalls ResourceMethod.call calls s).2.count .setStateOk ≤
      (runCalls ResourceMethod.call calls s).2.countP ResourceMethod.failsOrUpdates +
        if s = .erred ∨ s = .creating ∨ s = .updating then 1 else 0 := by
  have h := resourceMachine.countP_leave_le
    (fun s => s = .erred ∨ s = .creating ∨ s = .updating)
    (· == .setStateOk) ResourceMethod.failsOrUpdates (by decide) (by decide) (by decide) calls s
  rw [resourceMachine_call] at h
  exact Nat.le_of_add_right_le h

end Waldur
