/-
# Redelivered and concurrent order processing

The task queue delivers `process_order` at least once, and nothing stops a second
scheduling of it, so several executions for one order may run one after another or
interleaved. Each execution is modelled step by step over the shared database: loading
the order's items, `set_state_executing` plus its save for the next item, and
`process_order_item` for that item. The scheduler also picks the registry each dispatch
sees, so a processor may behave differently at every call. The theorem of this module
bounds how often a processor runs: once per execution at most, and only for an item
that was Pending or Erred in the rows that execution loaded. One execution run alone is
`process_order` of `Dispatch`, so the two models of the task agree.
-/

import Mathlib
import Waldur.Marketplace.Dispatch

namespace Waldur

namespace Redelivery

/-- Where one execution of `process_order` is. `marked` holds the loaded row of the item
that was just saved as Executing and is about to be handed to `process_order_item`. -/
inductive Phase
  | delivered
  | looping (rest : List OrderItem)
  | marked (item : OrderItem) (rest : List OrderItem)
  | finished
  | failed (e : Error)

/-- One execution: its phase, the rows it loaded, and the items whose processor it ran. -/
structure Execution where
  phase : Phase
  loaded : List OrderItem
  invoked : List Nat

/-- A delivery of the task that has not started. -/
def Execution.queued : Execution := ⟨.delivered, [], []⟩

/-- The step an execution takes next; `dispatch` names the registry that call sees. -/
inductive Move
  | start
  | mark
  | dispatch (plugins : PluginManager)

/-- The database and every execution of `process_order` for one order. -/
structure Deliveries where
  store : Store
  executions : List Execution

/-- Whether `process_order_item` runs a processor for this item in this database. -/
def runsProcessor (plugins : PluginManager) (s : Store) (item : OrderItem) : Bool :=
  match getOrderItemProcessor plugins s item with
  | .ok (some _) => true
  | _ => false

section Steps

variable (remotePluginName : String) (order user : Nat)

/-- One step of one execution; a step its phase does not allow changes nothing. -/
def advance (s : Store) (e : Execution) : Move → Execution × Store
  | .start =>
      match e.phase with
      | .delivered =>
          match s.orders.get? order with
          | none => ({ e with phase := .failed (.doesNotExist "Order") }, s)
          | some row =>
              let items := nonRemoteItems remotePluginName s row.id
              ({ e with phase := .looping items, loaded := items }, s)
      | _ => (e, s)
  | .mark =>
      match e.phase with
      | .looping [] => ({ e with phase := .finished }, s)
      | .looping (item :: rest) =>
          match item.state.setStateExecuting with
          | .error err => ({ e with phase := .failed err }, s)
          | .ok state =>
              match saveOrderItem item.id (fun r => { r with state := state }) (fun _ => rfl) s with
              | .ok () s' => ({ e with phase := .marked item rest }, s')
              | .error err s' => ({ e with phase := .failed err }, s')
      | _ => (e, s)
  | .dispatch plugins =>
      match e.phase with
      | .marked item rest =>
          let running := { item with state := .executing }
          let invoked :=
            if runsProcessor plugins s running then e.invoked ++ [item.id] else e.invoked
          match processOrderItem plugins running user s with
          | .ok () s' => ({ e with phase := .looping rest, invoked := invoked }, s')
          | .error err s' => ({ e with phase := .failed err, invoked := invoked }, s')
      | _ => (e, s)

/-- Let execution `i` take a step. -/
def step (d : Deliveries) : Nat × Move → Deliveries
  | (i, move) =>
      match d.executions[i]? with
      | none => d
      | some e =>
          let (e', s') := advance remotePluginName order user d.store e move
          ⟨s', d.executions.set i e'⟩

/-- Run a schedule of steps. -/
def run (d : Deliveries) (schedule : List (Nat × Move)) : Deliveries :=
  schedule.foldl (step remotePluginName order user) d

/-- `k` deliveries of the task, none started, over database `s`. -/
def initial (s : Store) (k : Nat) : Deliveries := ⟨s, List.replicate k Execution.queued⟩

end Steps

/-- The loaded rows an execution has not yet finished with. -/
def Phase.remaining : Phase → List OrderItem
  | .looping rest => rest
  | .marked item rest => item :: rest
  | _ => []

/-- The ids of the rows whose processor an execution may run. -/
def eligibleIds (items : List OrderItem) : List Nat :=
  (items.filter (·.state.canExecute)).map (·.id)

/-- What holds of every execution: its loaded rows split into the ones it handled and
the ones remaining, and it ran processors only for eligible handled rows. -/
structure Execution.Sound (e : Execution) : Prop where
  split : ∃ handled, e.loaded = handled ++ e.phase.remaining ∧
    e.invoked.Sublist (eligibleIds handled)
  marked_canExecute : ∀ item rest, e.phase = .marked item rest → item.state.canExecute
  delivered_fresh : e.phase = .delivered → e.loaded = [] ∧ e.invoked = []
  loaded_nodup : (e.loaded.map (·.id)).Nodup

theorem eligibleIds_append (xs ys : List OrderItem) :
    eligibleIds (xs ++ ys) = eligibleIds xs ++ eligibleIds ys := by
  simp [eligibleIds]

theorem Execution.Sound.invoked_sublist {e : Execution} (h : e.Sound) :
    e.invoked.Sublist (eligibleIds e.loaded) := by
  obtain ⟨handled, hloaded, hsub⟩ := h.split
  rw [hloaded, eligibleIds_append]
  exact hsub.trans (List.sublist_append_left _ _)

theorem queued_sound : Execution.queued.Sound where
  split := ⟨[], rfl, List.Sublist.slnil⟩
  marked_canExecute _ _ h := nomatch h
  delivered_fresh _ := ⟨rfl, rfl⟩
  loaded_nodup := List.nodup_nil

/-- An execution that has stopped is sound when it ran processors only for eligible
loaded rows. -/
theorem sound_of_halted {phase : Phase} {loaded : List OrderItem} {invoked : List Nat}
    (hhalted : phase = .finished ∨ ∃ err, phase = .failed err)
    (hinvoked : invoked.Sublist (eligibleIds loaded)) (hnodup : (loaded.map (·.id)).Nodup) :
    (⟨phase, loaded, invoked⟩ : Execution).Sound where
  split := ⟨loaded, by rcases hhalted with rfl | ⟨_, rfl⟩ <;> simp [Phase.remaining], hinvoked⟩
  marked_canExecute _ _ h := by rcases hhalted with rfl | ⟨_, rfl⟩ <;> exact Phase.noConfusion h
  delivered_fresh h := by rcases hhalted with rfl | ⟨_, rfl⟩ <;> exact Phase.noConfusion h
  loaded_nodup := hnodup

theorem nonRemoteItems_ids_nodup (remotePluginName : String) (s : Store) (order : Nat) :
    ((nonRemoteItems remotePluginName s order).map (·.id)).Nodup :=
  s.orderItems.keys_nodup.sublist ((List.filter_sublist _).map _)

section Invariant

variable (remotePluginName : String) (order user : Nat)

/-- Every step keeps the execution that takes it sound. -/
theorem advance_sound {s : Store} {e : Execution} (h : e.Sound) (move : Move) :
    (advance remotePluginName order user s e move).1.Sound := by
  have hsub := h.invoked_sublist
  obtain ⟨phase, loaded, invoked⟩ := e
  cases move with
  | start =>
      cases phase with
      | delivered =>
          obtain ⟨rfl, rfl⟩ := h.delivered_fresh rfl
          simp only [advance]
          split
          · exact sound_of_halted (.inr ⟨_, rfl⟩) .slnil List.nodup_nil
          · exact ⟨⟨[], rfl, .slnil⟩, fun _ _ h => Phase.noConfusion h,
              fun h => Phase.noConfusion h, nonRemoteItems_ids_nodup _ _ _⟩
      | _ => exact h
  | mark =>
      cases phase with
      | looping rest =>
          cases rest with
          | nil => exact sound_of_halted (.inl rfl) hsub h.loaded_nodup
          | cons item rest =>
              simp only [advance]
              split
              · exact sound_of_halted (.inr ⟨_, rfl⟩) hsub h.loaded_nodup
              · rename_i state hstate
                split
                · obtain ⟨handled, hloaded, hhandled⟩ := h.split
                  refine ⟨⟨handled, hloaded, hhandled⟩, ?_, fun h => Phase.noConfusion h,
                    h.loaded_nodup⟩
                  rintro _ _ ⟨⟩
                  exact (OrderItemState.setStateExecuting_eq_ok.mp hstate).1
                · exact sound_of_halted (.inr ⟨_, rfl⟩) hsub h.loaded_nodup
      | _ => exact h
  | dispatch plugins =>
      cases phase with
      | marked item rest =>
          have hitem := h.marked_canExecute item rest rfl
          obtain ⟨handled, hloaded, hhandled⟩ := h.split
          have hnext : eligibleIds (handled ++ [item]) = eligibleIds handled ++ [item.id] := by
            simp [eligibleIds, hitem]
          have hgrown : (if runsProcessor plugins s { item with state := .executing }
              then invoked ++ [item.id] else invoked).Sublist
                (eligibleIds (handled ++ [item])) := by
            rw [hnext]
            split
            · exact hhandled.append (List.Sublist.refl _)
            · exact hhandled.trans (List.sublist_append_left _ _)
          have hloaded' : loaded = (handled ++ [item]) ++ rest := by simpa using hloaded
          simp only [advance]
          split
          · exact ⟨⟨handled ++ [item], hloaded', hgrown⟩, fun _ _ h => Phase.noConfusion h,
              fun h => Phase.noConfusion h, h.loaded_nodup⟩
          · refine sound_of_halted (.inr ⟨_, rfl⟩) ?_ h.loaded_nodup
            rw [hloaded', eligibleIds_append]
            exact hgrown.trans (List.sublist_append_left _ _)
      | _ => exact h

/-- Every step keeps every execution sound. -/
theorem step_sound {d : Deliveries} (h : ∀ e ∈ d.executions, e.Sound) (action : Nat × Move) :
    ∀ e ∈ (step remotePluginName order user d action).executions, e.Sound := by
  obtain ⟨i, move⟩ := action
  simp only [step]
  split
  · exact h
  · rename_i e he
    intro e' he'
    rcases List.mem_or_eq_of_mem_set he' with he' | rfl
    · exact h e' he'
    · exact advance_sound remotePluginName order user (h e (List.getElem?_mem he)) move

theorem run_sound {d : Deliveries} (h : ∀ e ∈ d.executions, e.Sound)
    (schedule : List (Nat × Move)) :
    ∀ e ∈ (run remotePluginName order user d schedule).executions, e.Sound := by
  induction schedule generalizing d with
  | nil => exact h
  | cons action rest ih => exact ih (step_sound remotePluginName order user h action)

theorem step_length (d : Deliveries) (action : Nat × Move) :
    (step remotePluginName order user d action).executions.length = d.executions.length := by
  obtain ⟨i, move⟩ := action
  simp only [step]
  split
  · rfl
  · exact List.length_set _ _ _

theorem run_length (d : Deliveries) (schedule : List (Nat × Move)) :
    (run remotePluginName order user d schedule).executions.length = d.executions.length := by
  induction schedule generalizing d with
  | nil => rfl
  | cons action rest ih => exact (ih _).trans (step_length remotePluginName order user d action)

theorem eligibleIds_nodup {loaded : List OrderItem} (h : (loaded.map (·.id)).Nodup) :
    (eligibleIds loaded).Nodup :=
  h.sublist ((List.filter_sublist _).map _)

/-- Over any interleaving of `k` deliveries of `process_order` for one order, each
execution runs the processor of an item at most once, and only when the item was Pending
or Erred in the rows that execution loaded; so an item's processor runs at most `k`
times in all. -/
theorem processor_runs_at_most_once_per_delivery (s : Store) (k : Nat)
    (schedule : List (Nat × Move)) (id : Nat) :
    let final := run remotePluginName order user (initial s k) schedule
    (∀ e ∈ final.executions, e.invoked.count id ≤ 1 ∧
      (id ∈ e.invoked → ∃ row ∈ e.loaded, row.id = id ∧ row.state.canExecute)) ∧
    (final.executions.map (·.invoked.count id)).sum ≤ k := by
  intro final
  have hsound : ∀ e ∈ final.executions, e.Sound :=
    @run_sound remotePluginName order user (initial s k)
      (fun e he => (List.eq_of_mem_replicate he) ▸ queued_sound) schedule
  have hone : ∀ e ∈ final.executions, e.invoked.count id ≤ 1 := fun e he =>
    ((hsound e he).invoked_sublist.count_le id).trans
      (List.nodup_iff_count_le_one.mp (eligibleIds_nodup (hsound e he).loaded_nodup) id)
  refine ⟨fun e he => ⟨hone e he, fun hmem => ?_⟩, ?_⟩
  · obtain ⟨row, hrow, rfl⟩ := List.mem_map.mp ((hsound e he).invoked_sublist.subset hmem)
    exact ⟨row, (List.mem_filter.mp hrow).1, rfl, (List.mem_filter.mp hrow).2⟩
  · have hlength : final.executions.length = k := by
      simp [final, run_length, initial]
    calc (final.executions.map (·.invoked.count id)).sum
        ≤ (final.executions.map (·.invoked.count id)).length • 1 :=
          List.sum_le_card_nsmul _ _ (by simpa using hone)
      _ = k := by simp [hlength]

end Invariant

/-! ## One delivery run alone

With no other delivery interleaved, the step-by-step execution is `process_order` of
`Dispatch`: the two models of the task agree. -/

section Alone

variable (remotePluginName : String) (order user : Nat)

/-- The moves of one execution, each on the database the previous one left. -/
def runMoves : Execution → Store → List Move → Execution × Store
  | e, s, [] => (e, s)
  | e, s, m :: ms =>
      let (e', s') := advance remotePluginName order user s e m
      runMoves e' s' ms

/-- What a halted execution reports, as `process_order` returns it. -/
def Execution.result (e : Execution) (s : Store) : Option (EStateM.Result Error Store Unit) :=
  match e.phase with
  | .finished => some (.ok () s)
  | .failed err => some (.error err s)
  | _ => none

/-- The moves that carry an execution through `n` loaded rows and out of its loop. -/
def loopMoves (plugins : PluginManager) : Nat → List Move
  | 0 => [.mark]
  | n + 1 => .mark :: .dispatch plugins :: loopMoves plugins n

/-- What the first delivery reports once it has halted. -/
def Deliveries.firstResult (d : Deliveries) : Option (EStateM.Result Error Store Unit) :=
  d.executions.head?.bind fun e => e.result d.store

/-- One delivery run alone: its start, then the loop for `n` rows. -/
def aloneSchedule (plugins : PluginManager) (n : Nat) : List (Nat × Move) :=
  (.start :: loopMoves plugins n).map ((0, ·))

/-- A halted execution takes no more steps. -/
theorem runMoves_of_halted {e : Execution} (h : e.phase = .finished ∨ ∃ err, e.phase = .failed err)
    (s : Store) (ms : List Move) : runMoves remotePluginName order user e s ms = (e, s) := by
  induction ms with
  | nil => rfl
  | cons m ms ih =>
      obtain ⟨phase, loaded, invoked⟩ := e
      rcases h with rfl | ⟨err, rfl⟩ <;> cases m <;> exact ih

theorem runMoves_finished (loaded : List OrderItem) (invoked : List Nat) (s : Store)
    (ms : List Move) :
    runMoves remotePluginName order user ⟨.finished, loaded, invoked⟩ s ms =
      (⟨.finished, loaded, invoked⟩, s) :=
  runMoves_of_halted remotePluginName order user (.inl rfl) s ms

theorem runMoves_failed (err : Error) (loaded : List OrderItem) (invoked : List Nat)
    (s : Store) (ms : List Move) :
    runMoves remotePluginName order user ⟨.failed err, loaded, invoked⟩ s ms =
      (⟨.failed err, loaded, invoked⟩, s) :=
  runMoves_of_halted remotePluginName order user (.inr ⟨err, rfl⟩) s ms

/-- Run alone from its loop over `items`, an execution ends as the loop of `process_order`
over them does, given a move for every row. -/
theorem result_runMoves_loopMoves (plugins : PluginManager) (items : List OrderItem)
    (loaded : List OrderItem) (invoked : List Nat) :
    ∀ (n : Nat) (s : Store), items.length ≤ n →
      (runMoves remotePluginName order user ⟨.looping items, loaded, invoked⟩ s
          (loopMoves plugins n)).1.result
        (runMoves remotePluginName order user ⟨.looping items, loaded, invoked⟩ s
          (loopMoves plugins n)).2 =
      some (processItems plugins user items s) := by
  induction items generalizing invoked with
  | nil =>
      intro n s _
      cases n <;> simp only [loopMoves, runMoves, advance, runMoves_finished] <;> rfl
  | cons item rest ih =>
      intro n s hn
      obtain ⟨n, rfl⟩ : ∃ k, n = k + 1 := ⟨n - 1, by simp at hn; omega⟩
      simp only [processItems, loopMoves, runMoves, advance, bind_apply]
      cases hstate : item.state.setStateExecuting with
      | error err => simp only [ofExcept_error_apply, runMoves_failed]; rfl
      | ok state =>
          obtain rfl := (OrderItemState.setStateExecuting_eq_ok.mp hstate).2
          simp only [ofExcept_ok_apply]
          cases saveOrderItem item.id (fun r => { r with state := .executing }) (fun _ => rfl)
            s with
          | error err s' => simp only [runMoves_failed]; rfl
          | ok _ s' =>
              simp only
              cases processOrderItem plugins { item with state := .executing } user s' with
              | error err s'' => simp only [runMoves_failed]; rfl
              | ok _ s'' => exact ih _ n s'' (by simpa using hn)

/-- A run of steps of the only execution is its moves. -/
theorem run_alone (e : Execution) (s : Store) (moves : List Move) :
    run remotePluginName order user ⟨s, [e]⟩ (moves.map ((0, ·))) =
      ⟨(runMoves remotePluginName order user e s moves).2,
        [(runMoves remotePluginName order user e s moves).1]⟩ := by
  induction moves generalizing e s with
  | nil => rfl
  | cons m ms ih => exact ih _ _

/-- One delivery of `process_order` run alone, with a step for every row of the order
items table, ends with the result and database `process_order` of `Dispatch` gives. -/
theorem one_delivery_run_alone_is_process_order (plugins : PluginManager) (s : Store) :
    (run remotePluginName order user (initial s 1)
        (aloneSchedule plugins s.orderItems.rows.length)).firstResult =
      some (processOrder plugins remotePluginName order user s) := by
  show (run remotePluginName order user ⟨s, [Execution.queued]⟩
    ((.start :: loopMoves plugins s.orderItems.rows.length).map ((0, ·)))).firstResult = _
  rw [run_alone]
  cases hrow : s.orders.get? order with
  | none =>
      simp only [Deliveries.firstResult, List.head?_cons, Option.some_bind, runMoves,
        Execution.queued, advance, hrow, runMoves_failed, processOrder, bind_apply, get_apply]
      rfl
  | some row =>
      simp only [Deliveries.firstResult, List.head?_cons, Option.some_bind, runMoves,
        Execution.queued, advance, hrow]
      rw [processOrder_of_get? plugins user remotePluginName hrow]
      exact result_runMoves_loopMoves remotePluginName order user plugins _ _ [] _ s
        (List.length_filter_le _ s.orderItems.rows)

end Alone

/-- One approved order with one Pending item. -/
def pendingItemStore : Store where
  customers := ⟨[⟨1, "Customer", false⟩], by decide⟩
  projects := ⟨[⟨1, 1, "Project", "p1", none⟩], by decide⟩
  offerings := ⟨[⟨1, "VM", "OpenStackTenant.Instance", true, true, some 1, none, none, 1, none,
    .active⟩], by decide⟩
  orders := ⟨[⟨1, 1, .executing, some 1, none⟩], by decide⟩
  orderItems := ⟨[⟨2, 1, 1, none, none, [], .create, .pending, none, "", ""⟩], by decide⟩

/-- A registry whose processors always raise. -/
def failingPlugins : PluginManager where
  getProcessor _ _ := some fun _ _ => throw (.raised "Backend is not available.")
  canUpdateLimits _ := true
  components _ := []

/-- The processor of the one item runs twice: when a redelivered execution finds the item
Erred by the first one, and when two executions both load it as Pending. -/
theorem processor_runs_twice_for_one_item :
    ((run "Marketplace.Remote" 1 1 (initial pendingItemStore 2)
        [(0, .start), (0, .mark), (0, .dispatch failingPlugins), (0, .mark),
         (1, .start), (1, .mark), (1, .dispatch failingPlugins)]).executions.map
        (·.invoked.count 2)).sum = 2 ∧
    ((run "Marketplace.Remote" 1 1 (initial pendingItemStore 2)
        [(0, .start), (1, .start), (0, .mark), (0, .dispatch succeedingPlugins),
         (1, .mark), (1, .dispatch succeedingPlugins)]).executions.map
        (·.invoked.count 2)).sum = 2 := ⟨rfl, rfl⟩

end Redelivery

end Waldur
