/-
# Moving a resource to another project

`move_resource` moves a marketplace resource, its backend scope, the orders of the
resource and its invoice items in Pending invoices to another project, inside
`transaction.atomic`. The orders loop raises on an order that has an item not of the
resource, and the invoice items loop on a target invoice that is not Pending, both after
earlier iterations have written; the atomic block undoes those writes. Invoicing is not in
the source: the move reaches `get_or_create_invoice` and `update_current_cost` through
`Invoicing`, and relies only on the contract `Invoicing.Lawful` states.
-/

import Waldur.Marketplace.Store

namespace Waldur

/-- The content type of `structure.ServiceSettings`. -/
def serviceSettingsContentType : String := "structure.servicesettings"

/-- The invoicing calls of the move, which are not in the source: what
`RegistrationManager.get_or_create_invoice(customer, date)` returns and the database it
leaves, and the total `Invoice.update_current_cost()` stores. -/
structure Invoicing where
  getOrCreateInvoice : (customer year month : Nat) → Store → Invoice × Store
  currentCost : Store → Invoice → ℚ

/-- What the move relies on of `get_or_create_invoice`: the invoice it returns is stored and
belongs to the customer and month asked for; it only adds invoices, all of them Pending, and
invoice items, and changes no row of any table. -/
structure Invoicing.Lawful (invoicing : Invoicing) : Prop where
  returns : ∀ customer year month s,
    (invoicing.getOrCreateInvoice customer year month s).2.invoices.get?
        (invoicing.getOrCreateInvoice customer year month s).1.id =
      some (invoicing.getOrCreateInvoice customer year month s).1 ∧
    (invoicing.getOrCreateInvoice customer year month s).1.customer = customer ∧
    (invoicing.getOrCreateInvoice customer year month s).1.year = year ∧
    (invoicing.getOrCreateInvoice customer year month s).1.month = month
  keeps_invoices : ∀ customer year month s id inv, s.invoices.get? id = some inv →
    (invoicing.getOrCreateInvoice customer year month s).2.invoices.get? id = some inv
  adds_pending : ∀ customer year month s id inv,
    (invoicing.getOrCreateInvoice customer year month s).2.invoices.get? id = some inv →
    s.invoices.get? id = some inv ∨ inv.state = .pending
  keeps_items : ∀ customer year month s id item, s.invoiceItems.get? id = some item →
    (invoicing.getOrCreateInvoice customer year month s).2.invoiceItems.get? id = some item
  frame : ∀ customer year month s,
    (invoicing.getOrCreateInvoice customer year month s).2 =
      { s with
        invoices := (invoicing.getOrCreateInvoice customer year month s).2.invoices
        invoiceItems := (invoicing.getOrCreateInvoice customer year month s).2.invoiceItems }

/-- The message of the orders check. -/
def sharedOrderMessage : String :=
  "Resource moving is not possible, because related orders are related to other resources."

/-- The message of the invoice check. -/
def invoiceNotPendingMessage : String :=
  "Resource moving is not possible, because invoice items moving is not possible."

/-- `if project.customer.blocked: raise ValidationError(...)`. -/
def checkCustomerNotBlocked (customer : Customer) : Except Error Unit :=
  if customer.blocked then .error (.validationError "New customer must be not blocked")
  else .ok ()

/-- Whether the order has an item of the resource. -/
def containsItemOf (s : Store) (resource order : Nat) : Bool :=
  s.orderItems.rows.any fun item => item.order == order && item.resource == some resource

/-- `Order.objects.filter(pk__in=resource.orderitem_set.values_list('order_id'))`. -/
def ordersOf (s : Store) (resource : Nat) : List Order :=
  s.orders.rows.filter fun order => containsItemOf s resource order.id

/-- `order.items.exclude(resource=resource).exists()`. Django excludes only the rows with
`resource_id = resource`, so an item without a resource counts. -/
def hasItemOfOtherResource (s : Store) (order resource : Nat) : Bool :=
  s.orderItems.rows.any fun item => item.order == order && item.resource != some resource

/-- The check of the orders loop. -/
def checkOrderNotShared (s : Store) (order resource : Nat) : Except Error Unit :=
  if hasItemOfOtherResource s order resource then
    .error (.moveResourceException sharedOrderMessage)
  else .ok ()

/-- The check of the invoice items loop. -/
def checkTargetPending (invoice : Invoice) : Except Error Unit :=
  if invoice.state = .pending then .ok ()
  else .error (.moveResourceException invoiceNotPendingMessage)

/-- `InvoiceItem.objects.filter(resource=resource, invoice__state=PENDING, project=old_project)`. -/
def itemsToMove (s : Store) (resource oldProject : Nat) : List InvoiceItem :=
  s.invoiceItems.rows.filter fun item =>
    item.resource == some resource && item.project == some oldProject &&
      (s.invoices.get? item.invoice).any (·.state == .pending)

/-- `resource.project = project; resource.save(update_fields=['project'])`. -/
def saveResourceProject (resource project : Nat) : EStateM Error Store Unit := do
  let s ← get
  let resources ← ofExcept (s.resources.saveFields resource
    (fun r => { r with project := project }) fun _ => rfl)
  set { s with resources := resources }

/-- `Offering.objects.filter(scope=service_settings).update(project=project)`. -/
def moveOfferingsOf (project : Nat) (offerings : Table Offering) (settings : ServiceSettings) :
    Table Offering :=
  offerings.updateWhere (·.scope == some ⟨serviceSettingsContentType, settings.id⟩)
    (fun o => { o with project := some project }) fun _ => rfl

/-- The backend scope's part of the move: `resource.scope.project = project` and its save,
then the offerings of every service settings whose scope is that object. A generic key to
a missing object reads as `None`, and nothing happens. -/
def moveScope (scope : ScopeRef) (project : Nat) : EStateM Error Store Unit := do
  let s ← get
  match s.scopes.get? scope with
  | none => pure ()
  | some _ =>
      let scopes ← ofExcept (s.scopes.saveFields scope
        (fun o => { o with project := project }) fun _ => rfl)
      let settings := s.serviceSettings.rows.filter fun (ss : ServiceSettings) =>
        ss.scope == some scope
      set { s with
            scopes := scopes
            offerings := settings.foldl (moveOfferingsOf project) s.offerings }

/-- The orders loop of `move_resource`. -/
def moveOrders (resource project : Nat) : List Order → EStateM Error Store Unit
  | [] => pure ()
  | order :: rest => do
      let s ← get
      ofExcept (checkOrderNotShared s order.id resource)
      let orders ← ofExcept (s.orders.saveFields order.id
        (fun o => { o with project := project }) fun _ => rfl)
      set { s with orders := orders }
      moveOrders resource project rest

/-- `invoice.update_current_cost()`. -/
def updateCurrentCost (invoicing : Invoicing) (invoice : Invoice) : EStateM Error Store Unit := do
  let s ← get
  let invoices ← ofExcept (s.invoices.saveFields invoice.id
    (fun i => { i with currentCost := invoicing.currentCost s invoice }) fun _ => rfl)
  set { s with invoices := invoices }

/-- An invoice item moved to `project` and `invoice`. -/
def InvoiceItem.moveTo (item : InvoiceItem) (project : Project) (invoice : Nat) : InvoiceItem :=
  { item with
    project := some project.id
    projectUuid := project.uuid
    projectName := project.name
    invoice := invoice }

/-- The rest of an iteration once `get_or_create_invoice` has returned `target`: the check,
the item's save and the costs of both invoices. -/
def attachItem (invoicing : Invoicing) (project : Project) (item : InvoiceItem)
    (startInvoice targetInvoice : Invoice) : EStateM Error Store Unit := do
  ofExcept (checkTargetPending targetInvoice)
  let s ← get
  let items ← ofExcept (s.invoiceItems.saveFields item.id
    (fun i => i.moveTo project targetInvoice.id) fun _ => rfl)
  set { s with invoiceItems := items }
  updateCurrentCost invoicing startInvoice
  updateCurrentCost invoicing targetInvoice

/-- One iteration of the invoice items loop of `move_resource`. -/
def moveInvoiceItem (invoicing : Invoicing) (project : Project) (customer : Nat)
    (item : InvoiceItem) : EStateM Error Store Unit := do
  let s ← get
  let startInvoice ← ofExcept (s.invoices.fetch item.invoice "Invoice")
  let created := invoicing.getOrCreateInvoice customer startInvoice.year startInvoice.month s
  set created.2
  attachItem invoicing project item startInvoice created.1

/-- The invoice items loop of `move_resource`. -/
def moveInvoiceItems (invoicing : Invoicing) (project : Project) (customer : Nat) :
    List InvoiceItem → EStateM Error Store Unit
  | [] => pure ()
  | item :: rest => do
      moveInvoiceItem invoicing project customer item
      moveInvoiceItems invoicing project customer rest

/-- The body of `move_resource(resource, project)`. -/
def moveResourceBody (invoicing : Invoicing) (resource : Resource) (project : Project) :
    EStateM Error Store Unit := do
  let s ← get
  let customer ← ofExcept (s.customers.fetch project.customer "Customer")
  ofExcept (checkCustomerNotBlocked customer)
  saveResourceProject resource.id project.id
  match resource.scope with
  | some scope => moveScope scope project.id
  | none => pure ()
  let s ← get
  moveOrders resource.id project.id (ordersOf s resource.id)
  let s ← get
  moveInvoiceItems invoicing project customer.id (itemsToMove s resource.id resource.project)

/-- `move_resource`, decorated with `transaction.atomic`. -/
def moveResource (invoicing : Invoicing) (resource : Resource) (project : Project) :
    EStateM Error Store Unit :=
  atomic (moveResourceBody invoicing resource project)

/-! ## The steps before the loops -/

theorem saveResourceProject_eq {s : Store} {resource project : Nat}
    (h : resource ∈ s.resources.keys) :
    saveResourceProject resource project s = .ok ()
      { s with
        resources := s.resources.update resource (fun r => { r with project := project })
          fun _ => rfl } := by
  simp only [saveResourceProject, bind_apply, get_apply, Table.saveFields, if_pos h,
    ofExcept_ok_apply]
  rfl

/-- The offerings that the scope's part of the move reassigns: those whose scope is a
service settings whose scope is the stored backend object. -/
def offeringOfScope (s : Store) : Option ScopeRef → Offering → Bool
  | none, _ => false
  | some scope, o => (s.scopes.get? scope).isSome &&
      s.serviceSettings.rows.any fun ss =>
        ss.scope == some scope && o.scope == some ⟨serviceSettingsContentType, ss.id⟩

/-- The database after the scope's part of the move. -/
def scopeMoved (s : Store) (scope : Option ScopeRef) (project : Nat) : Store :=
  match scope with
  | some ref =>
      if (s.scopes.get? ref).isSome then
        { s with
          scopes := s.scopes.update ref (fun o => { o with project := project }) fun _ => rfl
          offerings := (s.serviceSettings.rows.filter fun ss => ss.scope == some ref).foldl
            (moveOfferingsOf project) s.offerings }
      else s
  | none => s

theorem moveScope_eq (s : Store) (scope : ScopeRef) (project : Nat) :
    moveScope scope project s = .ok () (scopeMoved s (some scope) project) := by
  simp only [moveScope, scopeMoved, bind_apply, get_apply]
  cases hobj : s.scopes.get? scope with
  | none => rfl
  | some obj =>
      simp only [Table.saveFields, if_pos (Table.mem_keys_of_get? hobj), ofExcept_ok_apply]
      rfl

theorem scopeMoved_frame (s : Store) (scope : Option ScopeRef) (project : Nat) :
    scopeMoved s scope project =
      { s with
        scopes := (scopeMoved s scope project).scopes
        offerings := (scopeMoved s scope project).offerings } := by
  unfold scopeMoved
  split
  · split <;> rfl
  · rfl

theorem ordersOf_scopeMoved (s : Store) (scope : Option ScopeRef) (project resource : Nat) :
    ordersOf (scopeMoved s scope project) resource = ordersOf s resource := by
  rw [scopeMoved_frame]
  rfl

theorem scopeMoved_scopes (s : Store) (scope : Option ScopeRef) (project : Nat) (ref : ScopeRef) :
    (scopeMoved s scope project).scopes.get? ref = (s.scopes.get? ref).map fun o =>
      if scope = some ref then { o with project := project } else o := by
  unfold scopeMoved
  split
  · rename_i r
    split
    · by_cases href : ref = r <;> simp [Table.get?_update, href, eq_comm]
    · rename_i hnone
      by_cases href : ref = r
      · simp_all
      · simp [Ne.symm href]
  · simp

theorem scopeMoved_offerings (s : Store) (scope : Option ScopeRef) (project : Nat) (id : Nat) :
    (scopeMoved s scope project).offerings.get? id = (s.offerings.get? id).map fun o =>
      if offeringOfScope s scope o then { o with project := some project } else o := by
  unfold scopeMoved
  split
  · rename_i r
    split
    · rename_i hsome
      refine Table.get?_of_rows_eq_map (fun _ => by split <;> rfl) ?_ id
      refine (Table.rows_foldl_updateWhere _
        (fun (ss : ServiceSettings) (o : Offering) =>
          o.scope == some ⟨serviceSettingsContentType, ss.id⟩)
        (fun o => { o with project := some project }) _ (fun _ => rfl) (fun _ _ => rfl)
        s.offerings).trans (List.map_congr_left fun o _ => ?_)
      simp [offeringOfScope, hsome, List.any_filter]
    · simp_all [offeringOfScope]
  · simp [offeringOfScope]

/-! ## The orders loop -/

/-- An order update of every listed key, each setting the project. -/
def ordersMoved (orders : Table Order) (keys : List Nat) (project : Nat) : Table Order :=
  keys.foldl (fun t k => t.update k (fun o => { o with project := project }) fun _ => rfl) orders

theorem ordersMoved_get? (orders : Table Order) (keys : List Nat) (project id : Nat) :
    (ordersMoved orders keys project).get? id = (orders.get? id).map fun o =>
      if id ∈ keys then { o with project := project } else o := by
  unfold ordersMoved
  simp only [Table.update_eq_updateWhere]
  rw [Table.get?_of_rows_eq_map (fun _ => by split <;> rfl)
    (Table.rows_foldl_updateWhere keys (fun k (r : Order) => decide (Row.pk r = k))
      (fun o => { o with project := project }) _ (fun _ => rfl) (fun _ _ => rfl) orders) id]
  cases h : orders.get? id with
  | none => rfl
  | some o =>
      have hid : Row.pk o = id := (Table.get?_eq_some_iff.mp h).2
      simp [hid]

theorem moveOrders_of_not_shared {resource project : Nat} {l : List Order} {s : Store}
    (hkeys : ∀ o ∈ l, o.id ∈ s.orders.keys)
    (hfree : ∀ o ∈ l, hasItemOfOtherResource s o.id resource = false) :
    moveOrders resource project l s =
      .ok () { s with orders := ordersMoved s.orders (l.map (·.id)) project } := by
  induction l generalizing s with
  | nil => rfl
  | cons o rest ih =>
      simp only [moveOrders, bind_apply, get_apply, checkOrderNotShared, hfree o (.head _),
        Bool.false_eq_true, if_false, ofExcept_ok_apply, Table.saveFields,
        if_pos (hkeys o (.head _))]
      exact ih (fun o' ho' => by simpa using hkeys o' (.tail _ ho'))
        fun o' ho' => hfree o' (.tail _ ho')

theorem moveOrders_of_shared {resource : Nat} (project : Nat) {l : List Order} {s : Store}
    (hkeys : ∀ o ∈ l, o.id ∈ s.orders.keys)
    (hshared : ∃ o ∈ l, hasItemOfOtherResource s o.id resource = true) :
    ∃ s', moveOrders resource project l s =
      .error (.moveResourceException sharedOrderMessage) s' := by
  induction l generalizing s with
  | nil => simp at hshared
  | cons o rest ih =>
      by_cases ho : hasItemOfOtherResource s o.id resource = true
      · exact ⟨s, by simp [moveOrders, bind_apply, checkOrderNotShared, ho]⟩
      · obtain ⟨o', ho', hshared'⟩ := hshared
        have hrest : o' ∈ rest := (List.mem_cons.mp ho').resolve_left fun h => ho (h ▸ hshared')
        simp only [moveOrders, bind_apply, get_apply, checkOrderNotShared, ho,
          Bool.false_eq_true, if_false, ofExcept_ok_apply, Table.saveFields,
          if_pos (hkeys o (.head _))]
        exact ih (fun o' ho' => by simpa using hkeys o' (.tail _ ho')) ⟨o', hrest, hshared'⟩

/-- A returning orders loop found no order with an item of another resource, and moved every
order it read. -/
theorem moveOrders_ok {resource project : Nat} {l : List Order} {s s' : Store}
    (h : moveOrders resource project l s = .ok () s') (hkeys : ∀ o ∈ l, o.id ∈ s.orders.keys) :
    (∀ o ∈ l, hasItemOfOtherResource s o.id resource = false) ∧
      s' = { s with orders := ordersMoved s.orders (l.map (·.id)) project } := by
  by_cases hshared : ∃ o ∈ l, hasItemOfOtherResource s o.id resource = true
  · obtain ⟨_, hraise⟩ := moveOrders_of_shared project hkeys hshared
    rw [hraise] at h
    cases h
  · have hfree : ∀ o ∈ l, hasItemOfOtherResource s o.id resource = false :=
      fun o ho => by simpa using fun h => hshared ⟨o, ho, h⟩
    rw [moveOrders_of_not_shared hkeys hfree] at h
    exact ⟨hfree, (EStateM.Result.ok.inj h).2.symm⟩

/-- The orders loop raises only at an order with an item of another resource. -/
theorem moveOrders_error {resource project : Nat} {l : List Order} {s s' : Store} {e : Error}
    (h : moveOrders resource project l s = .error e s') (hkeys : ∀ o ∈ l, o.id ∈ s.orders.keys) :
    e = .moveResourceException sharedOrderMessage ∧
      ∃ o ∈ l, hasItemOfOtherResource s o.id resource = true := by
  by_cases hshared : ∃ o ∈ l, hasItemOfOtherResource s o.id resource = true
  · obtain ⟨_, hraise⟩ := moveOrders_of_shared project hkeys hshared
    rw [hraise] at h
    cases h
    exact ⟨rfl, hshared⟩
  · rw [moveOrders_of_not_shared hkeys fun o ho => by simpa using fun h => hshared ⟨o, ho, h⟩] at h
    cases h

/-! ## The invoice items loop -/

/-- The database after an item is moved to the invoice `target` that `get_or_create_invoice`
returned in `s`, and both invoices' costs are updated. -/
def itemMoved (invoicing : Invoicing) (project : Project) (item : InvoiceItem)
    (start target : Invoice) (s : Store) : Store :=
  let s₁ := { s with
              invoiceItems := s.invoiceItems.update item.id (·.moveTo project target.id)
                fun _ => rfl }
  let s₂ := { s₁ with
              invoices := s₁.invoices.update start.id
                (fun i => { i with currentCost := invoicing.currentCost s₁ start }) fun _ => rfl }
  { s₂ with
    invoices := s₂.invoices.update target.id
      (fun i => { i with currentCost := invoicing.currentCost s₂ target }) fun _ => rfl }

theorem moveInvoiceItem_eq (invoicing : Invoicing) (project : Project) (customer : Nat)
    {item : InvoiceItem} {start : Invoice} {s : Store}
    (hstart : s.invoices.get? item.invoice = some start) :
    moveInvoiceItem invoicing project customer item s =
      attachItem invoicing project item start
        (invoicing.getOrCreateInvoice customer start.year start.month s).1
        (invoicing.getOrCreateInvoice customer start.year start.month s).2 := by
  simp only [moveInvoiceItem, bind_apply, get_apply, Table.fetch, hstart, ofExcept_ok_apply]
  rfl

/-- The rest of an iteration, on a database that stores the item as the loop read it and
both invoices. -/
theorem attachItem_eq (invoicing : Invoicing) (project : Project) {item : InvoiceItem}
    {start target : Invoice} {s : Store} (hitem : item.id ∈ s.invoiceItems.keys)
    (hstart : start.id ∈ s.invoices.keys) (htarget : target.id ∈ s.invoices.keys) :
    attachItem invoicing project item start target s =
      if target.state = .pending then .ok () (itemMoved invoicing project item start target s)
      else .error (.moveResourceException invoiceNotPendingMessage) s := by
  unfold attachItem checkTargetPending
  split
  · simp only [bind_apply, ofExcept_ok_apply, get_apply, set_apply, Table.saveFields,
      updateCurrentCost, Table.keys_update, hitem, hstart, htarget, if_true]
    rfl
  · rfl

/-- `s'` differs from `s` at most in its invoices and invoice items. -/
def InvoicingFrame (s s' : Store) : Prop :=
  s' = { s with invoices := s'.invoices, invoiceItems := s'.invoiceItems }

/-- Every invoice of `s` is still in `s'`, its current cost aside. -/
def InvoicesKept (s s' : Store) : Prop :=
  ∀ id inv, s.invoices.get? id = some inv →
    ∃ cost, s'.invoices.get? id = some { inv with currentCost := cost }

/-- Every invoice of `s'` is Pending, or one of `s` with at most its current cost changed. -/
def InvoicesFrom (s s' : Store) : Prop :=
  ∀ id inv, s'.invoices.get? id = some inv → inv.state = .pending ∨
    ∃ inv₀, s.invoices.get? id = some inv₀ ∧ inv = { inv₀ with currentCost := inv.currentCost }

/-- The invoice items of `s`, but those with an id in `moved`, are still in `s'`. -/
def ItemsKept (moved : List Nat) (s s' : Store) : Prop :=
  ∀ id item, id ∉ moved → s.invoiceItems.get? id = some item →
    s'.invoiceItems.get? id = some item

theorem InvoicingFrame.trans {s s' s'' : Store} (h₁ : InvoicingFrame s s')
    (h₂ : InvoicingFrame s' s'') : InvoicingFrame s s'' := by
  unfold InvoicingFrame at *
  exact h₂.trans (by rw [h₁])

theorem InvoicesKept.trans {s s' s'' : Store} (h₁ : InvoicesKept s s') (h₂ : InvoicesKept s' s'') :
    InvoicesKept s s'' := fun id inv h => by
  obtain ⟨cost, h'⟩ := h₁ id inv h
  obtain ⟨cost', h''⟩ := h₂ id _ h'
  exact ⟨cost', h''⟩

theorem InvoicesFrom.trans {s s' s'' : Store} (h₁ : InvoicesFrom s s') (h₂ : InvoicesFrom s' s'') :
    InvoicesFrom s s'' := fun id inv h => by
  rcases h₂ id inv h with hpending | ⟨inv₁, h₁', hinv⟩
  · exact .inl hpending
  · rcases h₁ id inv₁ h₁' with hpending | ⟨inv₀, h₀, hinv₁⟩
    · exact .inl (by rw [hinv]; exact hpending)
    · exact .inr ⟨inv₀, h₀, by rw [hinv, hinv₁]⟩

theorem ItemsKept.trans {moved moved' : List Nat} {s s' s'' : Store} (h₁ : ItemsKept moved s s')
    (h₂ : ItemsKept moved' s' s'') : ItemsKept (moved ++ moved') s s'' := fun id item hid h => by
  rw [List.mem_append, not_or] at hid
  exact h₂ id item hid.2 (h₁ id item hid.1 h)

/-- Storing an invoice's current cost changes nothing else of any invoice. -/
theorem costUpdate_spec (s : Store) (key : Nat) (c : ℚ) :
    let s' := { s with
                invoices := s.invoices.update key (fun i => { i with currentCost := c })
                  fun _ => rfl }
    InvoicesKept s s' ∧ InvoicesFrom s s' := by
  refine ⟨fun id inv h => ?_, fun id inv h => ?_⟩
  · by_cases hid : id = key
    · subst hid
      exact ⟨c, by simp [Table.get?_update, h]⟩
    · exact ⟨inv.currentCost, by simp [Table.get?_update, hid, h]⟩
  · simp only [Table.get?_update] at h
    split at h
    · obtain ⟨inv₀, h₀, rfl⟩ := Option.map_eq_some'.mp h
      exact .inr ⟨inv₀, h₀, rfl⟩
    · exact .inr ⟨inv, h, rfl⟩

/-- What `get_or_create_invoice` keeps. -/
theorem getOrCreateInvoice_spec {invoicing : Invoicing} (hlawful : invoicing.Lawful)
    (customer year month : Nat) (s : Store) :
    let s' := (invoicing.getOrCreateInvoice customer year month s).2
    InvoicingFrame s s' ∧ InvoicesKept s s' ∧ InvoicesFrom s s' ∧ ItemsKept [] s s' :=
  ⟨hlawful.frame customer year month s,
    fun id inv h => ⟨inv.currentCost, hlawful.keeps_invoices customer year month s id inv h⟩,
    fun id inv h => (hlawful.adds_pending customer year month s id inv h).elim
      (fun h₀ => .inr ⟨inv, h₀, rfl⟩) .inl,
    fun id item _ h => hlawful.keeps_items customer year month s id item h⟩

/-- What the database after an iteration keeps of the one `get_or_create_invoice` left. -/
theorem itemMoved_spec (invoicing : Invoicing) (project : Project) {item : InvoiceItem}
    (start target : Invoice) {s : Store} (hitem : s.invoiceItems.get? item.id = some item)
    (htarget : s.invoices.get? target.id = some target) :
    let s' := itemMoved invoicing project item start target s
    InvoicingFrame s s' ∧ InvoicesKept s s' ∧ InvoicesFrom s s' ∧ ItemsKept [item.id] s s' ∧
      s'.invoiceItems.get? item.id = some (item.moveTo project target.id) ∧
      ∃ cost, s'.invoices.get? target.id = some { target with currentCost := cost } := by
  intro s'
  let s₁ : Store := { s with
                      invoiceItems := s.invoiceItems.update item.id (·.moveTo project target.id)
                        fun _ => rfl }
  have hkept₁ : InvoicesKept s s₁ := fun _ inv h => ⟨inv.currentCost, h⟩
  have hfrom₁ : InvoicesFrom s s₁ := fun _ inv h => .inr ⟨inv, h, rfl⟩
  let s₂ : Store := { s₁ with
                      invoices := s₁.invoices.update start.id
                        (fun i => { i with currentCost := invoicing.currentCost s₁ start })
                        fun _ => rfl }
  obtain ⟨hkept₂, hfrom₂⟩ := costUpdate_spec s₁ start.id (invoicing.currentCost s₁ start)
  obtain ⟨hkept₃, hfrom₃⟩ := costUpdate_spec s₂ target.id (invoicing.currentCost s₂ target)
  have hkept : InvoicesKept s s' := (hkept₁.trans hkept₂).trans hkept₃
  refine ⟨rfl, hkept, (hfrom₁.trans hfrom₂).trans hfrom₃, fun id it hid h => ?_, ?_,
    hkept _ _ htarget⟩
  · simp only [s', itemMoved, Table.get?_update, List.mem_singleton.not.mp hid, if_false, h]
  · simp [s', itemMoved, Table.get?_update, hitem]

/-- An iteration, on a database that stores the item and its invoice, moves the item when the
invoice `get_or_create_invoice` returns is Pending, and raises otherwise. -/
theorem moveInvoiceItem_eq_ite {invoicing : Invoicing} (hlawful : invoicing.Lawful)
    (project : Project) (customer : Nat) {item : InvoiceItem} {start : Invoice} {s : Store}
    (hitem : s.invoiceItems.get? item.id = some item)
    (hstart : s.invoices.get? item.invoice = some start) :
    let r := invoicing.getOrCreateInvoice customer start.year start.month s
    moveInvoiceItem invoicing project customer item s =
      if r.1.state = .pending then .ok () (itemMoved invoicing project item start r.1 r.2)
      else .error (.moveResourceException invoiceNotPendingMessage) r.2 := by
  have hstartG := hlawful.keeps_invoices customer start.year start.month s _ _ hstart
  rw [← (Table.get?_eq_some_iff.mp hstart).2] at hstartG
  rw [moveInvoiceItem_eq invoicing project customer hstart]
  exact attachItem_eq invoicing project
    (Table.mem_keys_of_get? (hlawful.keeps_items customer start.year start.month s _ _ hitem))
    (Table.mem_keys_of_get? hstartG)
    (Table.mem_keys_of_get? (hlawful.returns customer start.year start.month s).1)

/-- A returning iteration attaches the item, with the project, to a Pending invoice of the
customer for the month of the item's invoice; besides, it stores invoice costs and what
`get_or_create_invoice` adds, and nothing else. -/
theorem moveInvoiceItem_ok {invoicing : Invoicing} (hlawful : invoicing.Lawful)
    {project : Project} {customer : Nat} {item : InvoiceItem} {s s' : Store}
    (hitem : s.invoiceItems.get? item.id = some item)
    (h : moveInvoiceItem invoicing project customer item s = .ok () s') :
    InvoicingFrame s s' ∧ InvoicesKept s s' ∧ InvoicesFrom s s' ∧ ItemsKept [item.id] s s' ∧
      ∃ start target, s.invoices.get? item.invoice = some start ∧
        s'.invoiceItems.get? item.id = some (item.moveTo project target.id) ∧
        s'.invoices.get? target.id = some target ∧ target.customer = customer ∧
        target.year = start.year ∧ target.month = start.month ∧ target.state = .pending := by
  cases hstart : s.invoices.get? item.invoice with
  | none => simp [moveInvoiceItem, bind_apply, Table.fetch, hstart] at h
  | some start =>
      rw [moveInvoiceItem_eq_ite hlawful project customer hitem hstart] at h
      obtain ⟨hframe, hkept, hfrom, hitems⟩ :=
        getOrCreateInvoice_spec hlawful customer start.year start.month s
      obtain ⟨htarget, hcustomer, hyear, hmonth⟩ :=
        hlawful.returns customer start.year start.month s
      split at h
      · rename_i hpending
        obtain ⟨-, rfl⟩ := EStateM.Result.ok.inj h
        obtain ⟨hframe', hkept', hfrom', hitems', hrow, cost, htarget'⟩ :=
          itemMoved_spec invoicing project start _ (hitems item.id item (List.not_mem_nil _) hitem)
            htarget
        exact ⟨hframe.trans hframe', hkept.trans hkept', hfrom.trans hfrom', hitems.trans hitems',
          start, { (invoicing.getOrCreateInvoice customer start.year start.month s).1 with
            currentCost := cost }, rfl, hrow, htarget', hcustomer, hyear, hmonth, hpending⟩
      · cases h

/-- An iteration raises only at a target invoice that is not Pending, and that invoice was
already in the database. -/
theorem moveInvoiceItem_error {invoicing : Invoicing} (hlawful : invoicing.Lawful)
    {project : Project} {customer : Nat} {item : InvoiceItem} {s s' : Store} {e : Error}
    (hitem : s.invoiceItems.get? item.id = some item)
    (hstart : (s.invoices.get? item.invoice).isSome)
    (h : moveInvoiceItem invoicing project customer item s = .error e s') :
    e = .moveResourceException invoiceNotPendingMessage ∧
      ∃ start target, s.invoices.get? item.invoice = some start ∧
        s.invoices.get? target.id = some target ∧ target.customer = customer ∧
        target.year = start.year ∧ target.month = start.month ∧ target.state ≠ .pending := by
  obtain ⟨start, hstart⟩ := Option.isSome_iff_exists.mp hstart
  rw [moveInvoiceItem_eq_ite hlawful project customer hitem hstart] at h
  obtain ⟨htarget, hcustomer, hyear, hmonth⟩ := hlawful.returns customer start.year start.month s
  split at h
  · cases h
  · rename_i hpending
    cases h
    exact ⟨rfl, start, _, hstart,
      (hlawful.adds_pending _ _ _ _ _ _ htarget).resolve_right hpending, hcustomer, hyear, hmonth,
      hpending⟩

/-- What the invoice items loop needs of the items it read: distinct rows, still stored, each
with its invoice. -/
structure LoopReady (l : List InvoiceItem) (s : Store) : Prop where
  nodup : (l.map (·.id)).Nodup
  stored : ∀ item ∈ l, s.invoiceItems.get? item.id = some item
  invoice : ∀ item ∈ l, (s.invoices.get? item.invoice).isSome

theorem itemsToMove_ready (s : Store) (resource oldProject : Nat) :
    LoopReady (itemsToMove s resource oldProject) s where
  nodup := s.invoiceItems.keys_nodup.sublist ((List.filter_sublist _).map _)
  stored := fun _ hitem => Table.get?_eq_some_iff.mpr ⟨(List.mem_filter.mp hitem).1, rfl⟩
  invoice := fun item hitem => by
    have hpending := (List.mem_filter.mp hitem).2
    cases h : s.invoices.get? item.invoice <;> simp_all

/-- After a returning iteration the rest of the items are still ready. -/
theorem LoopReady.tail {item : InvoiceItem} {rest : List InvoiceItem} {s s₁ : Store}
    (h : LoopReady (item :: rest) s) (hkept : InvoicesKept s s₁)
    (hitems : ItemsKept [item.id] s s₁) : LoopReady rest s₁ := by
  obtain ⟨hnodup, hstored, hinvoice⟩ := h
  rw [List.map_cons, List.nodup_cons] at hnodup
  refine ⟨hnodup.2, fun it hit => hitems _ _ ?_ (hstored it (.tail _ hit)), fun it hit => ?_⟩
  · exact List.mem_singleton.not.mpr fun hid => hnodup.1 (hid ▸ List.mem_map_of_mem _ hit)
  · obtain ⟨start, hstart⟩ := Option.isSome_iff_exists.mp (hinvoice it (.tail _ hit))
    obtain ⟨cost, hstart'⟩ := hkept _ _ hstart
    simp [hstart']

/-- The invoice of an item, read after invoices were kept, is of the month of the one read
before. -/
theorem start_of_kept {s s₁ : Store} (hkept : InvoicesKept s s₁) {id : Nat}
    (hsome : (s.invoices.get? id).isSome) {start₁ : Invoice}
    (h₁ : s₁.invoices.get? id = some start₁) :
    ∃ start, s.invoices.get? id = some start ∧ start₁.year = start.year ∧
      start₁.month = start.month := by
  obtain ⟨start, hstart⟩ := Option.isSome_iff_exists.mp hsome
  obtain ⟨cost, hstart₁⟩ := hkept _ _ hstart
  obtain rfl := Option.some.inj (h₁.symm.trans hstart₁)
  exact ⟨start, hstart, rfl, rfl⟩

/-- A returning invoice items loop attaches every item it read, with the project, to a
Pending invoice of the customer for the month of the item's invoice. -/
theorem moveInvoiceItems_ok {invoicing : Invoicing} (hlawful : invoicing.Lawful)
    {project : Project} {customer : Nat} :
    ∀ {l : List InvoiceItem} {s s' : Store}, LoopReady l s →
      moveInvoiceItems invoicing project customer l s = .ok () s' →
      InvoicingFrame s s' ∧ InvoicesKept s s' ∧ InvoicesFrom s s' ∧
        ItemsKept (l.map (·.id)) s s' ∧
        ∀ item ∈ l, ∃ start target, s.invoices.get? item.invoice = some start ∧
          s'.invoiceItems.get? item.id = some (item.moveTo project target.id) ∧
          s'.invoices.get? target.id = some target ∧ target.customer = customer ∧
          target.year = start.year ∧ target.month = start.month ∧ target.state = .pending
  | [], s, s', _, h => by
      obtain ⟨-, rfl⟩ := EStateM.Result.ok.inj h
      exact ⟨rfl, fun _ inv h => ⟨inv.currentCost, h⟩, fun _ inv h => .inr ⟨inv, h, rfl⟩,
        fun _ _ _ h => h, by simp⟩
  | item :: rest, s, s', hready, h => by
      obtain ⟨_, s₁, h₁, h₂⟩ := bind_eq_ok.mp h
      obtain ⟨hframe₁, hkept₁, hfrom₁, hitems₁, start, target, hstart, hrow, htarget, hcustomer,
        hyear, hmonth, hpending⟩ := moveInvoiceItem_ok hlawful (hready.stored item (.head _)) h₁
      obtain ⟨hframe₂, hkept₂, hfrom₂, hitems₂, hmoved⟩ :=
        moveInvoiceItems_ok hlawful (hready.tail hkept₁ hitems₁) h₂
      have hfresh : item.id ∉ rest.map (·.id) := (List.nodup_cons.mp hready.nodup).1
      refine ⟨hframe₁.trans hframe₂, hkept₁.trans hkept₂, hfrom₁.trans hfrom₂,
        hitems₁.trans hitems₂, fun it hit => ?_⟩
      rcases List.mem_cons.mp hit with rfl | hit
      · obtain ⟨cost, htarget'⟩ := hkept₂ _ _ htarget
        exact ⟨start, { target with currentCost := cost }, hstart, hitems₂ _ _ hfresh hrow,
          htarget', hcustomer, hyear, hmonth, hpending⟩
      · obtain ⟨start₁, target', hstart₁, hrow', htarget', hcustomer', hyear', hmonth',
          hpending'⟩ := hmoved it hit
        obtain ⟨start₀, hstart₀, hyear₀, hmonth₀⟩ :=
          start_of_kept hkept₁ (hready.invoice it (.tail _ hit)) hstart₁
        exact ⟨start₀, target', hstart₀, hrow', htarget', hcustomer', hyear'.trans hyear₀,
          hmonth'.trans hmonth₀, hpending'⟩

/-- The invoice items loop raises only at a target invoice that is not Pending and was in the
database the loop started from. -/
theorem moveInvoiceItems_error {invoicing : Invoicing} (hlawful : invoicing.Lawful)
    {project : Project} {customer : Nat} :
    ∀ {l : List InvoiceItem} {s s' : Store} {e : Error}, LoopReady l s →
      moveInvoiceItems invoicing project customer l s = .error e s' →
      e = .moveResourceException invoiceNotPendingMessage ∧
        ∃ item ∈ l, ∃ start target, s.invoices.get? item.invoice = some start ∧
          s.invoices.get? target.id = some target ∧ target.customer = customer ∧
          target.year = start.year ∧ target.month = start.month ∧ target.state ≠ .pending
  | [], _, _, _, _, h => by cases h
  | item :: rest, s, s', e, hready, h => by
      rcases bind_eq_error h with h₁ | ⟨_, s₁, h₁, h₂⟩
      · obtain ⟨rfl, start, target, hcause⟩ := moveInvoiceItem_error hlawful
          (hready.stored item (.head _)) (hready.invoice item (.head _)) h₁
        exact ⟨rfl, item, .head _, start, target, hcause⟩
      · obtain ⟨-, hkept₁, hfrom₁, hitems₁, -⟩ :=
          moveInvoiceItem_ok hlawful (hready.stored item (.head _)) h₁
        obtain ⟨rfl, it, hit, start₁, target₁, hstart₁, htarget₁, hcustomer, hyear, hmonth,
          hpending⟩ := moveInvoiceItems_error hlawful (hready.tail hkept₁ hitems₁) h₂
        obtain ⟨start₀, hstart₀, hyear₀, hmonth₀⟩ :=
          start_of_kept hkept₁ (hready.invoice it (.tail _ hit)) hstart₁
        rcases hfrom₁ _ _ htarget₁ with hnew | ⟨target₀, htarget₀, htarget_eq⟩
        · exact absurd hnew hpending
        · rw [htarget_eq] at hcustomer hyear hmonth hpending
          rw [show target₁.id = target₀.id by rw [htarget_eq]] at htarget₀
          exact ⟨rfl, it, .tail _ hit, start₀, target₀, hstart₀, htarget₀, hcustomer,
            hyear.trans hyear₀, hmonth.trans hmonth₀, hpending⟩

/-! ## The move -/

/-- Why a move raises, in the order the code checks: `project.customer` is gone, it is
blocked, an order of the resource has an item that is not of the resource, or an invoice of
the customer for the month of a moved item's invoice is not Pending. -/
inductive MoveError (s : Store) (resource : Resource) (project : Project) : Error → Prop
  | customerMissing : s.customers.get? project.customer = none →
      MoveError s resource project (.doesNotExist "Customer")
  | blocked (customer : Customer) : s.customers.get? project.customer = some customer →
      customer.blocked = true →
      MoveError s resource project (.validationError "New customer must be not blocked")
  | sharedOrder (customer : Customer) (order : Order) :
      s.customers.get? project.customer = some customer → customer.blocked = false →
      order ∈ ordersOf s resource.id → hasItemOfOtherResource s order.id resource.id = true →
      MoveError s resource project (.moveResourceException sharedOrderMessage)
  | invoiceNotPending (customer : Customer) (item : InvoiceItem) (start target : Invoice) :
      s.customers.get? project.customer = some customer → customer.blocked = false →
      (∀ order ∈ ordersOf s resource.id, hasItemOfOtherResource s order.id resource.id = false) →
      item ∈ itemsToMove s resource.id resource.project →
      s.invoices.get? item.invoice = some start → s.invoices.get? target.id = some target →
      target.customer = project.customer → target.year = start.year →
      target.month = start.month → target.state ≠ .pending →
      MoveError s resource project (.moveResourceException invoiceNotPendingMessage)

/-- What a returning move leaves: the resource, its backend object, the offerings of that
object's service settings and the orders with an item of the resource are in the project, and
those orders have no other item; every invoice item the loop read is in the project, on a
Pending invoice of the project's customer for its invoice's month; every other invoice item
and every invoice is kept, but for invoice costs; new invoices are Pending; no other table
changes. -/
structure Moved (s : Store) (resource : Resource) (project : Project) (s' : Store) : Prop where
  customer : ∃ customer, s.customers.get? project.customer = some customer ∧
    customer.blocked = false
  resources : ∀ id, s'.resources.get? id = (s.resources.get? id).map fun r =>
    if id = resource.id then { r with project := project.id } else r
  scopes : ∀ ref, s'.scopes.get? ref = (s.scopes.get? ref).map fun o =>
    if resource.scope = some ref then { o with project := project.id } else o
  offerings : ∀ id, s'.offerings.get? id = (s.offerings.get? id).map fun o =>
    if offeringOfScope s resource.scope o then { o with project := some project.id } else o
  orders : ∀ id, s'.orders.get? id = (s.orders.get? id).map fun o =>
    if containsItemOf s resource.id id then { o with project := project.id } else o
  orders_exclusive : ∀ order ∈ ordersOf s resource.id, ∀ item ∈ s.orderItems.rows,
    item.order = order.id → item.resource = some resource.id
  items_moved : ∀ item ∈ itemsToMove s resource.id resource.project, ∃ start target,
    s.invoices.get? item.invoice = some start ∧
    s'.invoiceItems.get? item.id = some (item.moveTo project target.id) ∧
    s'.invoices.get? target.id = some target ∧ target.customer = project.customer ∧
    target.year = start.year ∧ target.month = start.month ∧ target.state = .pending
  items_kept : ItemsKept ((itemsToMove s resource.id resource.project).map (·.id)) s s'
  invoices_kept : InvoicesKept s s'
  invoices_from : InvoicesFrom s s'
  frame : s' =
    { s with
      resources := s'.resources
      scopes := s'.scopes
      offerings := s'.offerings
      orders := s'.orders
      invoices := s'.invoices
      invoiceItems := s'.invoiceItems }

section Move

variable {invoicing : Invoicing} {resource : Resource} {project : Project} {s : Store}

theorem moveResourceBody_of_missing (h : s.customers.get? project.customer = none) :
    moveResourceBody invoicing resource project s = .error (.doesNotExist "Customer") s := by
  simp [moveResourceBody, bind_apply, get_apply, Table.fetch, h, ofExcept_error_apply]

theorem moveResourceBody_of_blocked {customer : Customer}
    (h : s.customers.get? project.customer = some customer) (hblocked : customer.blocked = true) :
    moveResourceBody invoicing resource project s =
      .error (.validationError "New customer must be not blocked") s := by
  simp [moveResourceBody, bind_apply, get_apply, Table.fetch, h, checkCustomerNotBlocked,
    hblocked, ofExcept_error_apply]

/-- Past the customer check, the move is the scope's part and then the two loops. -/
theorem moveResourceBody_eq {customer : Customer}
    (h : s.customers.get? project.customer = some customer) (hblocked : customer.blocked = false)
    (hresource : resource.id ∈ s.resources.keys) :
    moveResourceBody invoicing resource project s =
      (do
        moveOrders resource.id project.id (ordersOf s resource.id)
        let s ← get
        moveInvoiceItems invoicing project customer.id (itemsToMove s resource.id resource.project))
      (scopeMoved
        { s with
          resources := s.resources.update resource.id (fun r => { r with project := project.id })
            fun _ => rfl }
        resource.scope project.id) := by
  simp only [moveResourceBody, bind_apply, get_apply, Table.fetch, h, ofExcept_ok_apply,
    checkCustomerNotBlocked, hblocked, Bool.false_eq_true, if_false,
    saveResourceProject_eq hresource]
  cases resource.scope with
  | none => rfl
  | some ref =>
      simp only [bind_apply, moveScope_eq, get_apply, ordersOf_scopeMoved]
      rfl

theorem ordersOf_keys (s : Store) (resource : Nat) :
    ∀ o ∈ ordersOf s resource, o.id ∈ s.orders.keys :=
  fun _ ho => List.mem_map_of_mem _ (List.mem_filter.mp ho).1

/-- An order id is one the orders loop visits exactly when the order has an item of the
resource. -/
theorem mem_ordersOf_ids {s : Store} {resource id : Nat} {o : Order}
    (h : s.orders.get? id = some o) :
    id ∈ (ordersOf s resource).map (·.id) ↔ containsItemOf s resource id = true := by
  obtain ⟨hmem, rfl⟩ := Table.get?_eq_some_iff.mp h
  constructor
  · intro hid
    obtain ⟨o', ho', hid⟩ := List.mem_map.mp hid
    rw [← hid]
    exact (List.mem_filter.mp ho').2
  · exact fun hcontains => List.mem_map_of_mem _ (List.mem_filter.mpr ⟨hmem, hcontains⟩)

theorem moveResourceBody_error (hlawful : invoicing.Lawful)
    (hresource : s.resources.get? resource.id = some resource) {e : Error} {s' : Store}
    (h : moveResourceBody invoicing resource project s = .error e s') :
    MoveError s resource project e := by
  cases hcustomer : s.customers.get? project.customer with
  | none =>
      rw [moveResourceBody_of_missing hcustomer] at h
      cases h
      exact .customerMissing hcustomer
  | some customer =>
      cases hblocked : customer.blocked with
      | true =>
          rw [moveResourceBody_of_blocked hcustomer hblocked] at h
          cases h
          exact .blocked customer hcustomer hblocked
      | false =>
          rw [moveResourceBody_eq hcustomer hblocked (Table.mem_keys_of_get? hresource),
            scopeMoved_frame] at h
          rcases bind_eq_error h with horders | ⟨_, s₃, horders, hloop⟩
          · obtain ⟨rfl, o, ho, hother⟩ := moveOrders_error horders (ordersOf_keys s _)
            exact .sharedOrder customer o hcustomer hblocked ho hother
          · obtain ⟨hfree, rfl⟩ := moveOrders_ok horders (ordersOf_keys s _)
            obtain ⟨rfl, item, hitem, start, target, hstart, htarget, hcust, hyear, hmonth,
              hpending⟩ := moveInvoiceItems_error hlawful (itemsToMove_ready _ _ _) hloop
            exact .invoiceNotPending customer item start target hcustomer hblocked hfree hitem
              hstart htarget (hcust.trans (Table.get?_eq_some_iff.mp hcustomer).2) hyear hmonth
              hpending

theorem moveResourceBody_ok (hlawful : invoicing.Lawful)
    (hresource : s.resources.get? resource.id = some resource) {s' : Store}
    (h : moveResourceBody invoicing resource project s = .ok () s') :
    Moved s resource project s' := by
  cases hcustomer : s.customers.get? project.customer with
  | none => simp [moveResourceBody_of_missing hcustomer] at h
  | some customer =>
      cases hblocked : customer.blocked with
      | true => simp [moveResourceBody_of_blocked hcustomer hblocked] at h
      | false =>
          rw [moveResourceBody_eq hcustomer hblocked (Table.mem_keys_of_get? hresource),
            scopeMoved_frame] at h
          obtain ⟨_, s₃, horders, hloop⟩ := bind_eq_ok.mp h
          obtain ⟨hfree, rfl⟩ := moveOrders_ok horders (ordersOf_keys s _)
          obtain ⟨hframe, hkept, hfrom, hitems, hmoved⟩ :=
            moveInvoiceItems_ok hlawful (itemsToMove_ready _ _ _) hloop
          have hframe : s' = _ := hframe
          refine ⟨⟨customer, hcustomer, hblocked⟩, fun id => ?_, fun ref => ?_, fun id => ?_,
            fun id => ?_, fun order horder item hitem hitemorder => ?_, fun item hitem => ?_,
            hitems, hkept, hfrom, by rw [hframe]⟩
          · rw [hframe]
            by_cases hid : id = resource.id <;> simp [Table.get?_update, hid]
          · rw [hframe]
            exact scopeMoved_scopes _ _ _ ref
          · rw [hframe]
            exact scopeMoved_offerings _ _ _ id
          · rw [hframe]
            show (ordersMoved _ _ _).get? id = _
            rw [ordersMoved_get?]
            cases hget : s.orders.get? id with
            | none => rfl
            | some o => simp only [Option.map_some', mem_ordersOf_ids hget]
          · simpa [hitemorder] using List.any_eq_false.mp (hfree order horder) item hitem
          · obtain ⟨start, target, hstart, hrow, htarget, hcust, hyear, hmonth, hpending⟩ :=
              hmoved item hitem
            exact ⟨start, target, hstart, hrow, htarget,
              hcust.trans (Table.get?_eq_some_iff.mp hcustomer).2, hyear, hmonth, hpending⟩

end Move

/-- `move_resource` is all or nothing: it raises for one of the reasons `MoveError` lists and
leaves the database as it was, or it returns with the move done as `Moved` says. -/
theorem move_resource_all_or_nothing {invoicing : Invoicing} (hlawful : invoicing.Lawful)
    (s : Store) (resource : Resource) (project : Project)
    (hresource : s.resources.get? resource.id = some resource) :
    match moveResource invoicing resource project s with
    | .ok _ s' => Moved s resource project s'
    | .error e s' => s' = s ∧ MoveError s resource project e := by
  unfold moveResource
  cases hbody : moveResourceBody invoicing resource project s with
  | ok _ s' =>
      rw [atomic_of_ok hbody]
      exact moveResourceBody_ok hlawful hresource hbody
  | error e s' =>
      rw [atomic_of_error hbody]
      exact ⟨rfl, moveResourceBody_error hlawful hresource hbody⟩

/-- An invoicing that meets the contract: the customer's invoice for the month, or a new
Pending one. -/
def monthlyInvoicing : Invoicing where
  getOrCreateInvoice customer year month s :=
    match s.invoices.rows.find? fun i =>
        i.customer == customer && i.year == year && i.month == month with
    | some invoice => (invoice, s)
    | none =>
        let invoice : Invoice := ⟨s.invoices.nextKey, customer, year, month, .pending, 0⟩
        (invoice, { s with invoices := s.invoices.insert invoice s.invoices.nextKey_not_mem })
  currentCost _ invoice := invoice.currentCost

theorem monthlyInvoicing_lawful : monthlyInvoicing.Lawful where
  returns customer year month s := by
    simp only [monthlyInvoicing]
    split
    · rename_i invoice hfind
      have hmatch : invoice.customer = customer ∧ invoice.year = year ∧ invoice.month = month := by
        simpa [and_assoc] using List.find?_some hfind
      exact ⟨Table.get?_eq_some_iff.mpr ⟨List.mem_of_find?_eq_some hfind, rfl⟩, hmatch⟩
    · exact ⟨Table.get?_eq_some_iff.mpr ⟨by simp, rfl⟩, rfl, rfl, rfl⟩
  keeps_invoices customer year month s id invoice h := by
    simp only [monthlyInvoicing]
    split
    · exact h
    · obtain ⟨hmem, hid⟩ := Table.get?_eq_some_iff.mp h
      exact Table.get?_eq_some_iff.mpr ⟨by simp [hmem], hid⟩
  adds_pending customer year month s id invoice h := by
    simp only [monthlyInvoicing] at h
    split at h
    · exact .inl h
    · obtain ⟨hmem, hid⟩ := Table.get?_eq_some_iff.mp h
      rcases List.mem_append.mp hmem with hmem | hnew
      · exact .inl (Table.get?_eq_some_iff.mpr ⟨hmem, hid⟩)
      · rw [List.mem_singleton.mp hnew]
        exact .inr rfl
  keeps_items customer year month s id item h := by
    simp only [monthlyInvoicing]
    split <;> exact h
  frame customer year month s := by
    simp only [monthlyInvoicing]
    split <;> rfl

/-- Resource 1 of project 1 is moved to project 2 of the same, active customer. Its order also
has an item that no resource is attached to yet; no invoice item is billed. -/
def unassignedItemStore : Store where
  customers := ⟨[⟨1, "Customer", false⟩], by decide⟩
  projects := ⟨[⟨1, 1, "Old", "p1", none⟩, ⟨2, 1, "New", "p2", none⟩], by decide⟩
  resources := ⟨[⟨1, 1, 1, .ok, none, none⟩], by decide⟩
  orders := ⟨[⟨1, 1, .done, none, none⟩], by decide⟩
  orderItems := ⟨[⟨1, 1, 1, some 1, none, [], .create, .done, none, "", ""⟩,
    ⟨2, 1, 1, none, none, [], .create, .pending, none, "", ""⟩], by decide⟩

def movedResource : Resource := ⟨1, 1, 1, .ok, none, none⟩

def targetProject : Project := ⟨2, 1, "New", "p2", none⟩

/-- The customer is not blocked, every order item is of the moved resource or of none, and no
invoice item is to move; the move still raises the shared-orders exception, whatever
`get_or_create_invoice` does. -/
theorem move_raises_on_order_item_without_resource :
    unassignedItemStore.customers.get? targetProject.customer = some ⟨1, "Customer", false⟩ ∧
    (∀ item ∈ unassignedItemStore.orderItems.rows,
      item.resource = none ∨ item.resource = some movedResource.id) ∧
    itemsToMove unassignedItemStore movedResource.id movedResource.project = [] ∧
    ∀ invoicing : Invoicing,
      moveResource invoicing movedResource targetProject unassignedItemStore =
        .error (.moveResourceException sharedOrderMessage) unassignedItemStore :=
  ⟨by decide, by decide, rfl, fun _ => rfl⟩

theorem move_resource_all_or_nothing_on_unassigned_item :
    monthlyInvoicing.Lawful ∧
    unassignedItemStore.resources.get? movedResource.id = some movedResource ∧
    match moveResource monthlyInvoicing movedResource targetProject unassignedItemStore with
    | .ok _ s' => Moved unassignedItemStore movedResource targetProject s'
    | .error e s' =>
        s' = unassignedItemStore ∧ MoveError unassignedItemStore movedResource targetProject e :=
  ⟨monthlyInvoicing_lawful, rfl,
    move_resource_all_or_nothing monthlyInvoicing_lawful unassignedItemStore movedResource
      targetProject rfl⟩

end Waldur
