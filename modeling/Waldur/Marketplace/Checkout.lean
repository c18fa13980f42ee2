/-
# Adding items to an order

`Order.add_item` builds an order item, runs `OrderItem.clean` and `init_cost` on it, and
only then saves it. `clean` compares the new item's request type with the order's first
item and admits an offering only when it is shared, or belongs to the order's
organization or project. `init_cost` prices the item from its plan and limits
(`Plan.get_estimate`) plus the plan's one-time or plan-switch fee. This module shows that
any sequence of calls keeps both rules for every saved item of the order, and that a call
that raises saves nothing.
-/

import Mathlib
import Waldur.Marketplace.Dispatch

namespace Waldur

/-- The items of an order in creation order (`order.items`). -/
def orderItemsOf (s : Store) (order : Nat) : List OrderItem :=
  s.orderItems.rows.filter (·.order == order)

/-- `Offering.get_limit_components`: the offering's LIMIT-billed components. -/
def getLimitComponents (s : Store) (offering : Nat) : List OfferingComponent :=
  s.offeringComponents.rows.filter fun c => c.offering == offering && c.billingType == .limit

/-- `{c.component.type: c.price for c in plan.components.all()}`, latest entry first so that
a later component of the same type wins, as it does in the dictionary. -/
def componentPrices (s : Store) (plan : Nat) : Except Error (List (String × ℚ)) :=
  (s.planComponents.rows.filter (·.plan == plan)).foldlM (fun prices pc =>
    match pc.component with
    | none => throw (.attributeError "'NoneType' object has no attribute 'type'")
    | some c => do
        let component ← s.offeringComponents.fetch c "OfferingComponent"
        pure ((component.type, pc.price) :: prices)) []

/-- `Plan.get_estimate(limits)`: the unit price plus, for every limit component of the
offering, its plan price times the requested limit over the plugin's factor. A factor of 0
makes the `Decimal` division raise: `InvalidOperation` for 0/0, `DivisionByZero` otherwise. -/
def Plan.getEstimate (plugins : PluginManager) (s : Store) (plan : Plan)
    (limits : List (String × Int)) : Except Error ℚ := do
  if limits.isEmpty then return plan.unitPrice
  let offering ← s.offerings.fetch plan.offering "Offering"
  let prices ← componentPrices s plan.id
  let factors := plugins.components offering.type
  (getLimitComponents s offering.id).foldlM (fun cost component => do
    let price := dictGet prices component.type 0
    let limit := dictGet limits component.type 0
    let factor := dictGet factors component.type 1
    if factor = 0 then throw (if price * limit = 0 then .invalidOperation else .divisionByZero)
    pure (cost + price * limit / factor)) plan.unitPrice

/-- `Plan.sum_components(billing_type)`: the total price of the plan's components of
that billing type, `0` when there are none. -/
def Plan.sumComponents (s : Store) (plan : Plan) (billingType : BillingType) : ℚ :=
  ((s.planComponents.rows.filter fun pc => pc.plan == plan.id &&
      (pc.component.bind s.offeringComponents.get?).any (·.billingType == billingType)).map
    (·.price)).sum

/-- `RequestTypeMixin.init_cost`: the plan's estimate, plus `init_price` for a Create
item and `switch_price` for an Update item. An item without a plan keeps its cost. -/
def OrderItem.initCost (plugins : PluginManager) (s : Store) (item : OrderItem) :
    Except Error OrderItem := do
  match item.plan with
  | none => pure item
  | some planId =>
      let plan ← s.plans.fetch planId "Plan"
      let cost ← plan.getEstimate plugins s item.limits
      let activation := match item.type with
        | .create => plan.sumComponents s .oneTime
        | .update => plan.sumComponents s .onPlanSwitch
        | .terminate => 0
      pure { item with cost := some (cost + activation) }

/-- The first check of `OrderItem.clean`: the item has the request type of the order's
first item. -/
def checkSameType (s : Store) (order : Order) (item : OrderItem) : Except Error Unit := do
  if let some first := (orderItemsOf s order.id).head? then
    if first.type != item.type then
      throw (.validationError "Types of items in one order must be the same")

/-- The second check of `OrderItem.clean`: the offering is shared, or belongs to the
organization of the order's project, or to that project. -/
def checkOffering (s : Store) (order : Order) (item : OrderItem) : Except Error Unit := do
  let offering ← s.offerings.fetch item.offering "Offering"
  let project ← s.projects.fetch order.project "Project"
  let customer ← s.customers.fetch project.customer "Customer"
  if offering.shared then return
  if offering.customer == some customer.id then return
  if offering.project == some project.id then return
  throw (.validationError
    s!"Offering \"{offering.name}\" is not allowed in organization \"{customer.name}\".")

/-- `OrderItem.clean` for an item of `order`. -/
def OrderItem.clean (s : Store) (order : Order) (item : OrderItem) : Except Error Unit := do
  checkSameType s order item
  checkOffering s order item

/-- `order_item.save()` of a new item: it is stored under the next key. -/
def insertOrderItem (item : OrderItem) : EStateM Error Store OrderItem := fun s =>
  let row := { item with id := s.orderItems.nextKey }
  .ok row { s with orderItems := s.orderItems.insert row s.orderItems.nextKey_not_mem }

/-- `Order.add_item(**kwargs)`; `kwargs` holds the new item's fields. -/
def Order.addItem (plugins : PluginManager) (order : Order) (kwargs : OrderItem) :
    EStateM Error Store OrderItem := do
  let s ← get
  let item := { kwargs with order := order.id }
  ofExcept (item.clean s order)
  let item ← ofExcept (item.initCost plugins s)
  insertOrderItem item

/-- `clean`'s rule for offerings, as a decision on the database: the offering is shared,
or its organization is the one of the order's project, or it is bound to that project. -/
def offeringAllowed (s : Store) (order : Order) (offeringId : Nat) : Bool :=
  match s.offerings.get? offeringId, s.projects.get? order.project with
  | some offering, some project =>
      match s.customers.get? project.customer with
      | some customer => offering.shared || offering.customer == some customer.id ||
          offering.project == some project.id
      | none => false
  | _, _ => false

theorem checkSameType_eq_ok {s : Store} {order : Order} {item : OrderItem} :
    checkSameType s order item = .ok () ↔
      ∀ first ∈ (orderItemsOf s order.id).head?, first.type = item.type := by
  unfold checkSameType
  cases (orderItemsOf s order.id).head? with
  | none => exact iff_of_true rfl fun _ h => Option.noConfusion h
  | some first => by_cases h : first.type = item.type <;> simp [h]

theorem checkOffering_eq_ok {s : Store} {order : Order} {item : OrderItem} :
    checkOffering s order item = .ok () ↔ offeringAllowed s order item.offering := by
  unfold checkOffering offeringAllowed
  cases ho : s.offerings.get? item.offering with
  | none => simp [Table.fetch, ho]
  | some offering =>
    cases hp : s.projects.get? order.project with
    | none => simp [Table.fetch, ho, hp]
    | some project =>
      cases hc : s.customers.get? project.customer with
      | none => simp [Table.fetch, ho, hp, hc]
      | some customer =>
        simp only [Table.fetch, ho, hp, hc, except_ok_bind]
        by_cases h1 : offering.shared = true <;>
          by_cases h2 : offering.customer = some customer.id <;>
          by_cases h3 : offering.project = some project.id <;> simp [h1, h2, h3]

theorem clean_eq_ok {s : Store} {order : Order} {item : OrderItem} :
    item.clean s order = .ok () ↔
      (∀ first ∈ (orderItemsOf s order.id).head?, first.type = item.type) ∧
        offeringAllowed s order item.offering := by
  rw [← checkSameType_eq_ok, ← checkOffering_eq_ok]
  unfold OrderItem.clean
  cases checkSameType s order item <;> simp

/-- `init_cost` only sets the cost. -/
theorem initCost_eq_ok {plugins : PluginManager} {s : Store} {item item' : OrderItem}
    (h : item.initCost plugins s = .ok item') : ∃ cost, item' = { item with cost := cost } := by
  unfold OrderItem.initCost at h
  split at h
  · exact ⟨item.cost, (Except.ok.inj h).symm⟩
  · rename_i planId _
    cases hplan : s.plans.fetch planId "Plan" with
    | error e => simp [hplan] at h
    | ok plan =>
        cases hcost : plan.getEstimate plugins s item.limits with
        | error e => simp [hplan, hcost] at h
        | ok cost =>
            simp only [hplan, hcost, except_ok_bind, except_pure, Except.ok.injEq] at h
            exact ⟨_, h.symm⟩

section AddItem

variable {plugins : PluginManager} {order : Order} {kwargs item : OrderItem} {s s' : Store}

/-- A call that raises leaves the database as it was: the only write is the last step. -/
theorem addItem_of_error {e : Error} (h : order.addItem plugins kwargs s = .error e s') :
    s' = s := by
  cases hclean : OrderItem.clean s order { kwargs with order := order.id } with
  | error e' => simp [Order.addItem, bind_apply, hclean] at h; exact h.2.symm
  | ok u =>
      cases hcost : OrderItem.initCost plugins s { kwargs with order := order.id } with
      | error e' => simp [Order.addItem, bind_apply, hclean, hcost] at h; exact h.2.symm
      | ok item' => simp [Order.addItem, bind_apply, hclean, hcost, insertOrderItem] at h

/-- A call that returns has passed `clean` and appended one item of the order. -/
theorem addItem_of_ok (h : order.addItem plugins kwargs s = .ok item s') :
    (∀ first ∈ (orderItemsOf s order.id).head?, first.type = item.type) ∧
      offeringAllowed s order item.offering ∧
      orderItemsOf s' order.id = orderItemsOf s order.id ++ [item] ∧
      s'.offerings = s.offerings ∧ s'.projects = s.projects ∧ s'.customers = s.customers := by
  cases hclean : OrderItem.clean s order { kwargs with order := order.id } with
  | error e' => simp [Order.addItem, bind_apply, hclean] at h
  | ok u =>
      cases hcost : OrderItem.initCost plugins s { kwargs with order := order.id } with
      | error e' => simp [Order.addItem, bind_apply, hclean, hcost] at h
      | ok item' =>
          simp only [Order.addItem, bind_apply, get_apply, hclean, hcost, ofExcept_ok_apply,
            insertOrderItem, EStateM.Result.ok.injEq] at h
          obtain ⟨rfl, rfl⟩ := h
          obtain ⟨cost, rfl⟩ := initCost_eq_ok hcost
          obtain ⟨hfirst, hallowed⟩ := clean_eq_ok.mp hclean
          exact ⟨hfirst, hallowed, by simp [orderItemsOf], rfl, rfl, rfl⟩

end AddItem

/-- Both rules of `clean` hold for every saved item of the order. -/
structure ItemsConsistent (s : Store) (order : Order) : Prop where
  same_type : ∀ a ∈ orderItemsOf s order.id, ∀ b ∈ orderItemsOf s order.id, a.type = b.type
  allowed : ∀ a ∈ orderItemsOf s order.id, offeringAllowed s order a.offering

/-- The database after an `add_item` call, whether the call returned or raised. -/
def afterAddItem (plugins : PluginManager) (order : Order) (s : Store) (kwargs : OrderItem) :
    Store :=
  match order.addItem plugins kwargs s with
  | .ok _ s' => s'
  | .error _ s' => s'

theorem offeringAllowed_congr {s s' : Store} (order : Order) (offering : Nat)
    (ho : s'.offerings = s.offerings) (hp : s'.projects = s.projects)
    (hc : s'.customers = s.customers) :
    offeringAllowed s' order offering = offeringAllowed s order offering := by
  simp only [offeringAllowed, ho, hp, hc]

/-- One call, returning or raising, keeps the order's items consistent. -/
theorem afterAddItem_consistent (plugins : PluginManager) {order : Order} {s : Store}
    (h : ItemsConsistent s order) (kwargs : OrderItem) :
    ItemsConsistent (afterAddItem plugins order s kwargs) order := by
  unfold afterAddItem
  split
  · rename_i item s' hok
    obtain ⟨hfirst, hallowed, hitems, ho, hp, hc⟩ := addItem_of_ok hok
    have htype : ∀ a ∈ orderItemsOf s order.id, a.type = item.type := fun a ha => by
      cases hhead : (orderItemsOf s order.id).head? with
      | none => simp_all
      | some first =>
          exact (h.same_type a ha first (List.mem_of_mem_head? hhead)).trans (hfirst first hhead)
    constructor
    · intro a ha b hb
      rw [hitems] at ha hb
      rcases List.mem_append.mp ha with ha | ha <;> rcases List.mem_append.mp hb with hb | hb
      · exact h.same_type a ha b hb
      · rw [List.mem_singleton.mp hb]; exact htype a ha
      · rw [List.mem_singleton.mp ha]; exact (htype b hb).symm
      · rw [List.mem_singleton.mp ha, List.mem_singleton.mp hb]
    · intro a ha
      rw [hitems] at ha
      rw [offeringAllowed_congr order a.offering ho hp hc]
      rcases List.mem_append.mp ha with ha | ha
      · exact h.allowed a ha
      · rwa [List.mem_singleton.mp ha]
  · rename_i e s' herror
    rwa [addItem_of_error herror]

/-- Along any sequence of `Order.add_item` calls on an order whose saved items keep the
rules of `clean` (as an order without items does), the saved items all have one request
type and only admitted offerings; and a call that raises saves nothing. -/
theorem add_item_calls_keep_order_consistent (plugins : PluginManager) (order : Order)
    {s : Store} (h : ItemsConsistent s order) (calls : List OrderItem) :
    ItemsConsistent (calls.foldl (afterAddItem plugins order) s) order ∧
      ∀ (t : Store) (kwargs : OrderItem) (e : Error) (t' : Store),
        order.addItem plugins kwargs t = .error e t' → t' = t := by
  refine ⟨?_, fun _ _ _ _ => addItem_of_error⟩
  induction calls generalizing s with
  | nil => exact h
  | cons kwargs rest ih => exact ih (afterAddItem_consistent plugins h kwargs)

/-- A new order of project 1 and a shared offering, before checkout adds its items. -/
def emptyOrderStore : Store where
  customers := ⟨[⟨1, "Customer", false⟩], by decide⟩
  projects := ⟨[⟨1, 1, "Project", "p1", none⟩], by decide⟩
  offerings := ⟨[⟨1, "VM", "OpenStackTenant.Instance", true, true, some 2, none, none, 1, none,
    .active⟩], by decide⟩
  orders := ⟨[⟨1, 1, .requestedForApproval, none, none⟩], by decide⟩

/-- A Create item, then an Update item that `clean` refuses. -/
def checkoutCalls : List OrderItem :=
  [⟨0, 0, 1, none, none, [], .create, .pending, none, "", ""⟩,
   ⟨0, 0, 1, none, none, [], .update, .pending, none, "", ""⟩]

theorem add_item_calls_keep_order_consistent_from_empty :
    ItemsConsistent emptyOrderStore ⟨1, 1, .requestedForApproval, none, none⟩ ∧
    ItemsConsistent (checkoutCalls.foldl (afterAddItem succeedingPlugins
        ⟨1, 1, .requestedForApproval, none, none⟩) emptyOrderStore)
      ⟨1, 1, .requestedForApproval, none, none⟩ ∧
      ∀ (t : Store) (kwargs : OrderItem) (e : Error) (t' : Store),
        Order.addItem succeedingPlugins ⟨1, 1, .requestedForApproval, none, none⟩ kwargs t =
          .error e t' → t' = t :=
  have hempty : ItemsConsistent emptyOrderStore ⟨1, 1, .requestedForApproval, none, none⟩ :=
    ⟨(fun a ha => nomatch (show a ∈ ([] : List OrderItem) from ha)),
      (fun a ha => nomatch (show a ∈ ([] : List OrderItem) from ha))⟩
  ⟨hempty, add_item_calls_keep_order_consistent succeedingPlugins _ hempty checkoutCalls⟩

end Waldur
