/-
# Invoice item quantity edits

Staff may correct the quantity of an invoice item. For a usage-billed component,
`InvoiceItemUpdateSerializer.update` writes the new quantity back to a usage report: the
latest one, by date, of the item's resource and component in the invoice's month. The
forward link, `get_invoice_item_for_component_usage`, goes from a usage report to its item
through the report's plan period, which the reverse lookup does not look at.
-/

import Waldur.Marketplace.Store

namespace Waldur

/-- `ComponentUsage.objects.filter(resource=..., component=..., billing_period__year=...,
billing_period__month=...)`. -/
def usagesInMonth (s : Store) (resource component year month : Nat) : List ComponentUsage :=
  s.componentUsages.rows.filter fun u =>
    u.resource == resource && u.component == component && u.billingPeriod.year == year &&
      u.billingPeriod.month == month

/-- `queryset.order_by('date').last()`: a row of the latest date. The database may return
any of several rows of that date; the model takes the last stored, and nothing below
depends on that choice. -/
def lastByDate : List ComponentUsage → Option ComponentUsage
  | [] => none
  | u :: rest =>
      match lastByDate rest with
      | none => some u
      | some latest => if u.date ≤ latest.date then some latest else some u

theorem lastByDate_eq_none_iff {l : List ComponentUsage} : lastByDate l = none ↔ l = [] := by
  cases l with
  | nil => simp [lastByDate]
  | cons u rest =>
      simp only [lastByDate, reduceCtorEq, iff_false]
      split
      · simp
      · split <;> simp

/-- The row `last()` returns is one of the rows, and none of them is later. -/
theorem lastByDate_spec {l : List ComponentUsage} {latest : ComponentUsage}
    (h : lastByDate l = some latest) : latest ∈ l ∧ ∀ v ∈ l, v.date ≤ latest.date := by
  induction l generalizing latest with
  | nil => cases h
  | cons u rest ih =>
      simp only [lastByDate] at h
      split at h
      · rename_i hnone
        cases h
        rw [lastByDate_eq_none_iff.mp hnone]
        exact ⟨List.mem_singleton_self _, fun v hv => List.mem_singleton.mp hv ▸ DateTime.le_refl _⟩
      · rename_i restLatest hrest
        obtain ⟨hmem, hmax⟩ := ih hrest
        split at h
        · rename_i hle
          cases h
          exact ⟨List.mem_cons_of_mem _ hmem, fun v hv =>
            (List.mem_cons.mp hv).elim (fun hvu => hvu ▸ hle) (hmax v)⟩
        · rename_i hgt
          cases h
          have hle : restLatest.date ≤ u.date := (DateTime.le_total _ _).resolve_left hgt
          exact ⟨List.mem_cons_self _ _, fun v hv => (List.mem_cons.mp hv).elim
            (fun hvu => hvu ▸ DateTime.le_refl _) fun hv => DateTime.le_trans (hmax v hv) hle⟩

/-- `get_invoice_item_for_component_usage`: the invoice item a usage report is billed on,
found by the report's month, resource and component type and by its plan period's bounds;
`None` for a report without a plan period or without such an item. -/
def getInvoiceItemForComponentUsage (s : Store) (usage : ComponentUsage) :
    Except Error (Option InvoiceItem) := do
  let some periodId := usage.planPeriod | pure none
  let period ← s.resourcePlanPeriods.fetch periodId "ResourcePlanPeriod"
  let periodEnd := period.stop.getD (monthEnd usage.billingPeriod)
  let periodStart := period.start.getD (DateTime.ofDate usage.billingPeriod)
  let component ← s.offeringComponents.fetch usage.component "OfferingComponent"
  let items := s.invoiceItems.rows.filter fun item =>
    (s.invoices.get? item.invoice).any (fun invoice =>
      invoice.year == usage.billingPeriod.year && invoice.month == usage.billingPeriod.month) &&
    item.resource == some usage.resource && periodStart ≤ item.start && item.stop ≤ periodEnd &&
    item.details.offeringComponentType == some component.type
  match items with
  | [] => pure none
  | [item] => pure (some item)
  | _ => throw (.multipleObjectsReturned "InvoiceItem")

/-- The fields `InvoiceItemUpdateSerializer` accepts, each optional in a partial update. -/
structure InvoiceItemUpdate where
  articleCode : Option String
  quantity : Option Int

namespace InvoiceItemUpdateSerializer

/-- `if offering_component.billing_type != USAGE: raise ValidationError(...)`. -/
def checkUsageBased (component : OfferingComponent) : Except Error Unit :=
  if component.billingType = .usage then .ok ()
  else .error (.validationError "Offering component is not usage-based.")

@[simp] theorem checkUsageBased_eq_ok {component : OfferingComponent} {u : Unit} :
    checkUsageBased component = .ok u ↔ component.billingType = .usage := by
  unfold checkUsageBased
  split <;> simp_all

/-- `ModelSerializer.update`: set the given fields on the item and save it. -/
def modelUpdate (item : InvoiceItem) (data : InvoiceItemUpdate) :
    EStateM Error Store InvoiceItem := do
  let item := { item with
                articleCode := data.articleCode.getD item.articleCode
                quantity := data.quantity.getD item.quantity }
  modify fun s => { s with invoiceItems := s.invoiceItems.put item }
  pure item

/-- The checks of `update`, in its order, and the usage report it overwrites. -/
def usageToUpdate (s : Store) (item : InvoiceItem) : Except Error ComponentUsage := do
  let resource ← orRaise item.resource
    (.validationError "Marketplace resource is not defined in invoice item.")
  let planComponentId ← orRaise (item.details.planComponentId.filter (· != 0))
    (.validationError "Plan component is not defined in invoice item details.")
  let planComponent ← orRaise (s.planComponents.get? planComponentId)
    (.validationError "Related plan component is not found.")
  let componentId ← orRaise planComponent.component
    (.attributeError "'NoneType' object has no attribute 'billing_type'")
  let offeringComponent ← s.offeringComponents.fetch componentId "OfferingComponent"
  checkUsageBased offeringComponent
  let invoice ← s.invoices.fetch item.invoice "Invoice"
  orRaise (lastByDate (usagesInMonth s resource offeringComponent.id invoice.year invoice.month))
    (.validationError "Component usage is not found.")

/-- `InvoiceItemUpdateSerializer.update(instance, validated_data)`. -/
def update (item : InvoiceItem) (data : InvoiceItemUpdate) : EStateM Error Store InvoiceItem := do
  let some quantity := data.quantity | modelUpdate item data
  let s ← get
  let usage ← ofExcept (usageToUpdate s item)
  let usages ← ofExcept (s.componentUsages.saveFields usage.id
    (fun u => { u with usage := quantity }) fun _ => rfl)
  set { s with componentUsages := usages }
  modelUpdate item data

/-- What a successful lookup has checked: the item's resource, the usage-billed offering
component of its plan component and its invoice exist, and the report is the one `last()`
returns among those of that resource and component in the invoice's month. -/
theorem usageToUpdate_spec {s : Store} {item : InvoiceItem} {usage : ComponentUsage}
    (h : usageToUpdate s item = .ok usage) :
    ∃ resource component invoice, item.resource = some resource ∧
      (item.details.planComponentId.bind s.planComponents.get?).bind (·.component) =
        some component.id ∧
      component ∈ s.offeringComponents.rows ∧ component.billingType = .usage ∧
      s.invoices.get? item.invoice = some invoice ∧
      lastByDate (usagesInMonth s resource component.id invoice.year invoice.month) =
        some usage := by
  simp only [usageToUpdate, except_bind_eq_ok, orRaise_eq_ok, Table.fetch_eq_ok,
    checkUsageBased_eq_ok] at h
  obtain ⟨resource, hresource, planComponentId, hid, planComponent, hplan, componentId, hcomponent,
    component, hfetch, _, hcheck, invoice, hinvoice, hlast⟩ := h
  obtain ⟨hmem, rfl⟩ := Table.get?_eq_some_iff.mp hfetch
  refine ⟨resource, component, invoice, hresource, ?_, hmem, hcheck, hinvoice, hlast⟩
  rw [(Option.filter_eq_some.mp hid).1]
  simp only [Option.some_bind, hplan, hcomponent]
  rfl

/-- A quantity edit either raises and changes nothing, or sets the item's quantity and the
usage of one report: a latest one by date among the reports of the item's resource, of the
offering component of its plan component, in its invoice's month. No other usage report
changes. -/
theorem update_quantity_overwrites_latest_usage (s : Store) (item : InvoiceItem)
    (articleCode : Option String) (q : Int) :
    match update item ⟨articleCode, some q⟩ s with
    | .error _ s' => s' = s
    | .ok item' s' => ∃ resource component invoice usage,
        item.resource = some resource ∧
        (item.details.planComponentId.bind s.planComponents.get?).bind (·.component) =
          some component.id ∧
        component ∈ s.offeringComponents.rows ∧ component.billingType = .usage ∧
        s.invoices.get? item.invoice = some invoice ∧
        usage ∈ usagesInMonth s resource component.id invoice.year invoice.month ∧
        (∀ v ∈ usagesInMonth s resource component.id invoice.year invoice.month,
          v.date ≤ usage.date) ∧
        item' = { item with articleCode := articleCode.getD item.articleCode, quantity := q } ∧
        s' = { s with
               componentUsages := s.componentUsages.update usage.id
                 (fun u => { u with usage := q }) fun _ => rfl
               invoiceItems := s.invoiceItems.put item' } := by
  simp only [update, bind_apply, get_apply]
  cases husage : usageToUpdate s item with
  | error e => rfl
  | ok usage =>
      obtain ⟨resource, component, invoice, hresource, hcomponent, hmem, hbilling, hinvoice,
        hlast⟩ := usageToUpdate_spec husage
      obtain ⟨hlatest, hmax⟩ := lastByDate_spec hlast
      have hkey : usage.id ∈ s.componentUsages.keys :=
        List.mem_map_of_mem _ (List.mem_filter.mp hlatest).1
      simp only [ofExcept_ok_apply, Table.saveFields, if_pos hkey]
      exact ⟨resource, component, invoice, usage, hresource, hcomponent, hmem, hbilling, hinvoice,
        hlatest, hmax, rfl, rfl⟩

end InvoiceItemUpdateSerializer

/-! ## A plan switch in mid-month -/

/-- GPU hours of resource 1 reported on 10 January 2024, under its first plan period. -/
def firstPeriodUsage : ComponentUsage := ⟨1, 1, 1, 10, ⟨⟨2024, 1, 10⟩, 0⟩, some 1, ⟨2024, 1, 1⟩⟩

/-- GPU hours reported on 20 January, under the plan period that began on the 15th. -/
def secondPeriodUsage : ComponentUsage := ⟨2, 1, 1, 20, ⟨⟨2024, 1, 20⟩, 0⟩, some 2, ⟨2024, 1, 1⟩⟩

/-- The January invoice item of the first plan period. -/
def firstPeriodItem : InvoiceItem :=
  ⟨1, 1, some 1, some 1, "p1", "Project", "", ⟨some 1, some "gpu"⟩, ⟨⟨2024, 1, 1⟩, 0⟩,
    ⟨⟨2024, 1, 14⟩, DateTime.endOfDay⟩, 10⟩

/-- The January invoice item of the second plan period. -/
def secondPeriodItem : InvoiceItem :=
  ⟨2, 1, some 1, some 1, "p1", "Project", "", ⟨some 2, some "gpu"⟩, ⟨⟨2024, 1, 15⟩, 0⟩,
    ⟨⟨2024, 1, 31⟩, DateTime.endOfDay⟩, 20⟩

/-- Resource 1 switched on 15 January 2024 from plan 1 to plan 2, both pricing the
usage-billed component "gpu"; each plan period reported usage and has its invoice item. -/
def planSwitchStore : Store where
  resources := ⟨[⟨1, 1, 1, .ok, none, none⟩], by decide⟩
  offeringComponents := ⟨[⟨1, 1, none, "gpu", .usage, none, none, none, none⟩], by decide⟩
  plans := ⟨[⟨1, 1, 0⟩, ⟨2, 1, 0⟩], by decide⟩
  planComponents := ⟨[⟨1, 1, some 1, 0, 0⟩, ⟨2, 2, some 1, 0, 0⟩], by decide⟩
  resourcePlanPeriods := ⟨[⟨1, 1, 1, some ⟨⟨2024, 1, 1⟩, 0⟩, some ⟨⟨2024, 1, 15⟩, 0⟩⟩,
    ⟨2, 1, 2, some ⟨⟨2024, 1, 15⟩, 0⟩, none⟩], by decide⟩
  componentUsages := ⟨[firstPeriodUsage, secondPeriodUsage], by decide⟩
  invoices := ⟨[⟨1, 1, 2024, 1, .pending, 0⟩], by decide⟩
  invoiceItems := ⟨[firstPeriodItem, secondPeriodItem], by decide⟩

/-- Each usage report maps to its own period's item, but editing the first item's quantity
overwrites the second period's report and leaves the first one as it was. -/
theorem quantity_edit_overwrites_other_period_usage :
    getInvoiceItemForComponentUsage planSwitchStore firstPeriodUsage = .ok (some firstPeriodItem) ∧
    getInvoiceItemForComponentUsage planSwitchStore secondPeriodUsage =
      .ok (some secondPeriodItem) ∧
    ∃ s', InvoiceItemUpdateSerializer.update firstPeriodItem ⟨none, some 15⟩ planSwitchStore =
        .ok { firstPeriodItem with quantity := 15 } s' ∧
      s'.componentUsages.get? 1 = some firstPeriodUsage ∧
      s'.componentUsages.get? 2 = some { secondPeriodUsage with usage := 15 } :=
  ⟨rfl, rfl, _, rfl, rfl, rfl⟩

end Waldur
