/-
# Provisioning dispatch

`process_order` (in `marketplace/tasks.py`) walks the order's items that do not belong
to the remote plugin, moves each to Executing and hands it to `process_order_item` (in
`marketplace/utils.py`). That function looks up the processor registered for the
offering type and request type, runs it, and records any exception it raises on the
item. Processors are arbitrary programs over the database, so every result here holds
whatever the provisioning backends do. The remote plugin's name lives outside the source
and is a parameter.

`plugins.manager` maps each offering type to what its plugin registered: a processor for
each request type, whether limits can be updated, and the plugin's built-in components
with their factors. The registry is filled at start-up by code outside the source, so
every function that consults it takes it as a parameter.
-/

import Waldur.Marketplace.Store

namespace Waldur

/-! ## The plugin registry -/

/-- A processor's `process_order_item(user)`: any program over the database. -/
def Processor : Type := OrderItem → Nat → EStateM Error Store Unit

/-- `plugins.manager`: `get_processor`, `can_update_limits`, and the type and factor of
each component `get_components` lists. -/
structure PluginManager where
  getProcessor : String → String → Option Processor
  canUpdateLimits : String → Bool
  components : String → List (String × Nat)

/-- The processor attribute `get_order_item_processor` asks the registry for. -/
def processorAttribute : RequestType → String
  | .create => "create_resource_processor"
  | .update => "update_resource_processor"
  | .terminate => "delete_resource_processor"

/-! ## Processing an order -/

/-- `get_order_item_processor`: the processor of the resource's offering when the item
has a resource, else of the item's offering. Related rows are fetched, and a missing
one raises. -/
def getOrderItemProcessor (plugins : PluginManager) (s : Store) (item : OrderItem) :
    Except Error (Option Processor) := do
  let offeringId ← match item.resource with
    | some resource =>
        match s.resources.get? resource with
        | some row => pure row.offering
        | none => throw (.doesNotExist "Resource")
    | none => pure item.offering
  match s.offerings.get? offeringId with
  | some offering => pure (plugins.getProcessor offering.type (processorAttribute item.type))
  | none => throw (.doesNotExist "Offering")

/-- `order_item.save(update_fields=[...])`, where `f` writes the listed columns. -/
def saveOrderItem (key : Nat) (f : OrderItem → OrderItem) (hf : ∀ r, (f r).id = r.id) :
    EStateM Error Store Unit := fun s =>
  match s.orderItems.saveFields key f hf with
  | .ok table => .ok () { s with orderItems := table }
  | .error e => .error e s

/-- The message recorded when no processor is registered. -/
def processorNotFoundMessage : String :=
  "Skipping order item processing because processor is not found."

/-- The write of the `except Exception` branch: state Erred, the message and traceback. -/
def recordProcessorError (item : OrderItem) (e : Error) : EStateM Error Store Unit :=
  saveOrderItem item.id
    (fun r => { r with state := .erred, errorMessage := e.message,
                       errorTraceback := e.formatExc }) fun _ => rfl

/-- The write of the no-processor branch: state Erred and the not-found message. -/
def recordProcessorNotFound (item : OrderItem) : EStateM Error Store Unit :=
  saveOrderItem item.id
    (fun r => { r with state := .erred, errorMessage := processorNotFoundMessage }) fun _ => rfl

/-- Run a processor and catch every exception it raises (`except Exception as e`). -/
def runProcessor (processor : Processor) (item : OrderItem) (user : Nat) :
    EStateM Error Store Unit :=
  tryCatch (processor item user) (recordProcessorError item)

/-- `process_order_item` of `marketplace/utils.py`. -/
def processOrderItem (plugins : PluginManager) (item : OrderItem) (user : Nat) :
    EStateM Error Store Unit := do
  match getOrderItemProcessor plugins (← get) item with
  | .error e => throw e
  | .ok none => recordProcessorNotFound item
  | .ok (some processor) => runProcessor processor item user

/-- The rows `order.items.exclude(offering__type=REMOTE_PLUGIN_NAME)` loads, in the
`created` order of `OrderItem.Meta`; the join drops an item whose offering row is gone. -/
def nonRemoteItems (remotePluginName : String) (s : Store) (order : Nat) : List OrderItem :=
  s.orderItems.rows.filter fun item =>
    item.order = order && (s.offerings.get? item.offering).any (·.type != remotePluginName)

/-- The loop of `process_order` over the loaded rows. -/
def processItems (plugins : PluginManager) (user : Nat) : List OrderItem → EStateM Error Store Unit
  | [] => pure ()
  | item :: rest => do
      let state ← ofExcept item.state.setStateExecuting
      saveOrderItem item.id (fun r => { r with state := state }) fun _ => rfl
      processOrderItem plugins { item with state := state } user
      processItems plugins user rest

/-- `process_order`: deserialize the order, then run the loop over its non-remote items. -/
def processOrder (plugins : PluginManager) (remotePluginName : String) (order user : Nat) :
    EStateM Error Store Unit := do
  let s ← get
  match s.orders.get? order with
  | none => throw (.doesNotExist "Order")
  | some row => processItems plugins user (nonRemoteItems remotePluginName s row.id)

/-- What the loop does with an item it may execute: save Executing, then dispatch it. -/
def dispatchItem (plugins : PluginManager) (user : Nat) (item : OrderItem) :
    EStateM Error Store Unit := do
  saveOrderItem item.id (fun r => { r with state := .executing }) fun _ => rfl
  processOrderItem plugins { item with state := .executing } user

section Loop

variable (plugins : PluginManager) (user : Nat)

theorem processItems_cons_of_canExecute {item : OrderItem} (rest : List OrderItem)
    (h : item.state.canExecute) :
    processItems plugins user (item :: rest) =
      dispatchItem plugins user item >>= fun _ => processItems plugins user rest := by
  have hstate : item.state.setStateExecuting = .ok .executing :=
    OrderItemState.setStateExecuting_eq_ok.mpr ⟨h, rfl⟩
  simp only [processItems, hstate, ofExcept, dispatchItem, bind_assoc, pure_bind]

theorem processItems_cons_of_not_canExecute {item : OrderItem} (rest : List OrderItem)
    (h : item.state.canExecute = false) :
    processItems plugins user (item :: rest) =
      throw (.transitionNotAllowed item.state.code "set_state_executing") := by
  simp only [processItems, OrderItemState.setStateExecuting_of_not_canExecute h, ofExcept]
  rfl

/-- The first loaded item that may not execute aborts the loop: the items before it are
dispatched, it and every later item are not. -/
theorem processItems_append_of_not_canExecute {before : List OrderItem} {item : OrderItem}
    (after : List OrderItem) (hbefore : ∀ i ∈ before, i.state.canExecute)
    (hitem : item.state.canExecute = false) :
    processItems plugins user (before ++ item :: after) =
      before.forM (dispatchItem plugins user) >>= fun _ =>
        throw (.transitionNotAllowed item.state.code "set_state_executing") := by
  induction before with
  | nil =>
      rw [List.nil_append, processItems_cons_of_not_canExecute plugins user after hitem]
      rfl
  | cons i rest ih =>
      rw [List.cons_append, processItems_cons_of_canExecute plugins user _ (hbefore i (.head _)),
        ih fun j hj => hbefore j (.tail _ hj)]
      exact (bind_assoc _ _ _).symm

/-- `process_order` on an order that exists is the loop over its loaded items. -/
theorem processOrder_of_get? (remotePluginName : String) {order : Nat} {s : Store} {row : Order}
    (hrow : s.orders.get? order = some row) :
    processOrder plugins remotePluginName order user s =
      processItems plugins user (nonRemoteItems remotePluginName s row.id) s := by
  simp only [processOrder, bind_apply, get_apply, hrow]

end Loop

/-- An approved order whose first item was cancelled before approval and whose second
item is still Pending. -/
def cancelledFirstItemStore : Store where
  customers := ⟨[⟨1, "Customer", false⟩], by decide⟩
  projects := ⟨[⟨1, 1, "Project", "p1", none⟩], by decide⟩
  offerings := ⟨[⟨1, "VM", "OpenStackTenant.Instance", true, true, some 1, none, none, 1, none,
    .active⟩], by decide⟩
  orders := ⟨[⟨1, 1, .executing, some 1, none⟩], by decide⟩
  orderItems := ⟨[⟨1, 1, 1, none, none, [], .create, .terminated, none, "", ""⟩,
    ⟨2, 1, 1, none, none, [], .create, .pending, none, "", ""⟩], by decide⟩

/-- A registry with a processor that succeeds for every offering type. -/
def succeedingPlugins : PluginManager where
  getProcessor _ _ := some fun _ _ => pure ()
  canUpdateLimits _ := true
  components _ := []

/-- On that order `process_order` raises `TransitionNotAllowed` at the cancelled item
and never reaches the Pending one, which stays Pending in the unchanged database. -/
theorem processOrder_aborts_at_terminated_item :
    processOrder succeedingPlugins "Marketplace.Remote" 1 1 cancelledFirstItemStore =
      .error (.transitionNotAllowed 5 "set_state_executing") cancelledFirstItemStore := by
  have hrow : cancelledFirstItemStore.orders.get? 1 = some ⟨1, 1, .executing, some 1, none⟩ := rfl
  have hitems : nonRemoteItems "Marketplace.Remote" cancelledFirstItemStore 1 =
      [] ++ ⟨1, 1, 1, none, none, [], .create, .terminated, none, "", ""⟩ ::
        [⟨2, 1, 1, none, none, [], .create, .pending, none, "", ""⟩] := by decide
  have hbefore : ∀ i ∈ ([] : List OrderItem), i.state.canExecute := by simp
  have hcancelled : OrderItemState.terminated.canExecute = false := rfl
  rw [processOrder_of_get? succeedingPlugins 1 _ hrow, hitems,
    processItems_append_of_not_canExecute _ _ _ hbefore hcancelled]
  rfl

/-! ## What `process_order_item` records -/

section Record

variable {plugins : PluginManager} {item : OrderItem} {user : Nat} {s : Store}

end Record

end Waldur
