/-
# Notifications about missing usage reports

`get_info_about_missing_usage_reports` finds, for the billing month of now, the OK resources
of usage-billed offerings whose plugin asks for usage notifications and that have no usage
reported yet, and groups them by the organization of their offering.
`send_notifications_about_usages` mails each group to the owners of its organization when the
organization's service provider has notifications on. This module shows that the report has
one row per organization, listing exactly that organization's resources in database order,
and that the task tells each organization once, about exactly those resources.
The plugin registry (`get_offering_types`, `enable_usage_notifications`), the owners of an
organization, its service provider and its homeport link are outside the source and are
parameters.
-/

import Waldur.Marketplace.Store

namespace Waldur

/-- A row of the report, the dictionary `{'customer': ..., 'resources': [...]}`. The
organization is its primary key, which Django compares rows by, or `None` for an offering
without one. -/
structure MissingUsageRow where
  customer : Option Nat
  resources : List Resource
  deriving DecidableEq, Repr

/-- `offering_ids`: the offerings of the usage-billed components whose offering type is one
of `whitelist_types`. -/
def usageOfferingIds (s : Store) (whitelistTypes : List String) : List Nat :=
  (s.offeringComponents.rows.filter fun c => c.billingType == .usage &&
    (s.offerings.get? c.offering).any fun o => whitelistTypes.contains o.type).map (·.offering)

/-- `resource_with_usages`: the resources with a usage reported for the billing period. -/
def resourceWithUsages (s : Store) (billingPeriod : Date) : List Nat :=
  (s.componentUsages.rows.filter (·.billingPeriod == billingPeriod)).map (·.resource)

/-- `resources_without_usages`: the OK resources of those offerings with no usage reported. -/
def resourcesWithoutUsages (s : Store) (offeringIds withUsages : List Nat) : List Resource :=
  s.resources.rows.filter fun r =>
    r.state == .ok && offeringIds.contains r.offering && !withUsages.contains r.id

/-- `resource.offering.customer`: Django fetches the offering, then its organization. -/
def offeringCustomerOf (s : Store) (resource : Resource) : Except Error (Option Nat) := do
  let offering ← s.offerings.fetch resource.offering "Offering"
  match offering.customer with
  | none => pure none
  | some c => do
      let customer ← s.customers.fetch c "Customer"
      pure (some customer.id)

/-- One pass of the loop: the resource joins the first row of its organization
(`rows[0]['resources'].append(resource)`), or a new row for it goes at the end. -/
def appendToFirstRow : List MissingUsageRow → Option Nat → Resource → List MissingUsageRow
  | [], customer, resource => [⟨customer, [resource]⟩]
  | row :: rows, customer, resource =>
      if row.customer = customer then ⟨row.customer, row.resources ++ [resource]⟩ :: rows
      else row :: appendToFirstRow rows customer resource

/-- The body of the loop over `resources_without_usages`. -/
def reportResource (s : Store) (result : List MissingUsageRow) (resource : Resource) :
    Except Error (List MissingUsageRow) := do
  let customer ← offeringCustomerOf s resource
  pure (appendToFirstRow result customer resource)

/-- `get_info_about_missing_usage_reports()`, run at `now`; the billing period is the date of
`month_start(now)`, as a `DateField` lookup reads a timestamp. -/
def getInfoAboutMissingUsageReports (offeringTypes : List String)
    (enableUsageNotifications : String → Bool) (s : Store) (now : DateTime) :
    Except Error (List MissingUsageRow) :=
  let whitelistTypes := offeringTypes.filter enableUsageNotifications
  let offeringIds := usageOfferingIds s whitelistTypes
  let withUsages := resourceWithUsages s (monthStart now).date
  (resourcesWithoutUsages s offeringIds withUsages).foldlM (reportResource s) []

/-- A `broadcast_mail('marketplace', 'notification_usages', warning, emails)` call: the
warning's organization and resources, the link the task adds to it, and the recipients. -/
structure UsageMail where
  customer : Nat
  resources : List Resource
  publicResourcesUrl : String
  emails : List String
  deriving DecidableEq, Repr

/-- The body of the loop of `send_notifications_about_usages` for one warning.
`ownerEmails` gives the emails of `customer.get_owners()`, `publicResourcesUrl` the link of
`get_public_resources_url`, and `enableNotifications` the flag of `customer.serviceprovider`,
`none` for an organization with no service provider, where Django raises
`RelatedObjectDoesNotExist`, a `ServiceProvider.DoesNotExist`. -/
def notifyAboutMissingUsage (ownerEmails : Nat → List String)
    (publicResourcesUrl : Nat → String) (enableNotifications : Nat → Option Bool)
    (warning : MissingUsageRow) : EStateM Error (List UsageMail) Unit := do
  let some customer := warning.customer
    | throw (.attributeError "'NoneType' object has no attribute 'get_owners'")
  let emails := ownerEmails customer
  let url := publicResourcesUrl customer
  let some enabled := enableNotifications customer
    | throw (.doesNotExist "ServiceProvider")
  if enabled && !emails.isEmpty then
    modify (· ++ [⟨customer, warning.resources, url, emails⟩])

/-- `send_notifications_about_usages()`, run at `now`; the state is the mail sent so far. -/
def sendNotificationsAboutUsages (offeringTypes : List String)
    (enableUsageNotifications : String → Bool) (ownerEmails : Nat → List String)
    (publicResourcesUrl : Nat → String) (enableNotifications : Nat → Option Bool) (s : Store)
    (now : DateTime) : EStateM Error (List UsageMail) Unit := do
  let warnings ←
    ofExcept (getInfoAboutMissingUsageReports offeringTypes enableUsageNotifications s now)
  warnings.forM (notifyAboutMissingUsage ownerEmails publicResourcesUrl enableNotifications)

/-! ## What the report is for -/

section Report

variable (offeringTypes : List String) (enableUsageNotifications : String → Bool)
  (s : Store) (now : DateTime)

/-- A resource the report is about: it is OK, its offering is of a type registered with usage
notifications on and bills a component by usage, and no usage of it is reported for the
billing month of `now`. -/
def missesUsageReport (r : Resource) : Bool :=
  r.state == .ok &&
    (s.offerings.get? r.offering).any
      (fun o => offeringTypes.contains o.type && enableUsageNotifications o.type) &&
    s.offeringComponents.rows.any (fun c => c.offering == r.offering && c.billingType == .usage) &&
    !s.componentUsages.rows.any
      (fun u => u.resource == r.id && u.billingPeriod == (monthStart now).date)

/-- The organization of a resource's offering. -/
def offeringCustomer (r : Resource) : Option Nat := (s.offerings.get? r.offering).bind (·.customer)

/-- The resources a report lists under an organization. -/
def rowResources (report : List MissingUsageRow) (customer : Option Nat) : List Resource :=
  ((report.find? (·.customer == customer)).map (·.resources)).getD []

/-- What the report should be: one row per organization, none of them empty, each listing
exactly the resources of that organization's offerings that miss a usage report, in database
order. -/
structure GroupsMissingUsage (report : List MissingUsageRow) : Prop where
  customers_nodup : (report.map (·.customer)).Nodup
  resources_ne_nil : ∀ row ∈ report, row.resources ≠ []
  rowResources_eq : ∀ c, rowResources report c = s.resources.rows.filter fun r =>
    missesUsageReport offeringTypes enableUsageNotifications s now r && offeringCustomer s r == c

theorem contains_usageOfferingIds (r : Resource) :
    (usageOfferingIds s (offeringTypes.filter enableUsageNotifications)).contains r.offering =
      ((s.offerings.get? r.offering).any
          (fun o => offeringTypes.contains o.type && enableUsageNotifications o.type) &&
        s.offeringComponents.rows.any
          (fun c => c.offering == r.offering && c.billingType == .usage)) := by
  have hw : ∀ x, (offeringTypes.filter enableUsageNotifications).contains x =
      (offeringTypes.contains x && enableUsageNotifications x) := by
    simp [List.elem_eq_mem]
  rw [Bool.eq_iff_iff]
  simp only [usageOfferingIds, hw, List.elem_eq_mem, decide_eq_true_eq, List.mem_map,
    List.mem_filter, Bool.and_eq_true, List.any_eq_true, beq_iff_eq]
  constructor
  · rintro ⟨c, ⟨hc, hu, hw⟩, hco⟩
    exact ⟨by rwa [← hco], c, hc, hco, hu⟩
  · rintro ⟨hw, c, hc, hco, hu⟩
    exact ⟨c, ⟨hc, hu, by rwa [hco]⟩, hco⟩

theorem contains_resourceWithUsages (r : Resource) :
    (resourceWithUsages s (monthStart now).date).contains r.id =
      s.componentUsages.rows.any
        (fun u => u.resource == r.id && u.billingPeriod == (monthStart now).date) := by
  rw [Bool.eq_iff_iff]
  simp only [resourceWithUsages, List.elem_eq_mem, decide_eq_true_eq, List.mem_map,
    List.mem_filter, Bool.and_eq_true, List.any_eq_true, beq_iff_eq]
  constructor
  · rintro ⟨u, ⟨hu, hb⟩, hr⟩
    exact ⟨u, hu, hr, hb⟩
  · rintro ⟨u, hu, hr, hb⟩
    exact ⟨u, ⟨hu, hb⟩, hr⟩

/-- The three querysets select exactly the resources the report is about. -/
theorem resourcesWithoutUsages_eq :
    resourcesWithoutUsages s (usageOfferingIds s (offeringTypes.filter enableUsageNotifications))
        (resourceWithUsages s (monthStart now).date) =
      s.resources.rows.filter (missesUsageReport offeringTypes enableUsageNotifications s now) := by
  refine List.filter_congr fun r _ => ?_
  rw [contains_usageOfferingIds, contains_resourceWithUsages, missesUsageReport]
  simp only [Bool.and_assoc]

/-- For a resource the report is about, `resource.offering.customer` is found, provided
every offering's organization is in the database. -/
theorem offeringCustomerOf_eq
    (hcustomers : ∀ o ∈ s.offerings.rows, o.customer.all (· ∈ s.customers.keys))
    {r : Resource} (hr : missesUsageReport offeringTypes enableUsageNotifications s now r) :
    offeringCustomerOf s r = .ok (offeringCustomer s r) := by
  simp only [missesUsageReport, Bool.and_eq_true] at hr
  cases ho : s.offerings.get? r.offering with
  | none => simp [ho] at hr
  | some o =>
    have hc := hcustomers o (Table.get?_eq_some_iff.mp ho).1
    simp only [offeringCustomerOf, offeringCustomer, Table.fetch, ho, except_ok_bind,
      Option.some_bind]
    cases hco : o.customer with
    | none => rfl
    | some c =>
      rw [hco, Option.all_some, decide_eq_true_eq] at hc
      obtain ⟨cu, hcu, rfl⟩ := List.mem_map.mp hc
      have hget : s.customers.get? (Row.pk cu) = some cu :=
        Table.get?_eq_some_iff.mpr ⟨hcu, rfl⟩
      simp only [hget]
      rfl

end Report

/-! ## The loop -/

/-- The rows keep one per organization, and none is empty. -/
structure ReportWellFormed (report : List MissingUsageRow) : Prop where
  customers_nodup : (report.map (·.customer)).Nodup
  resources_ne_nil : ∀ row ∈ report, row.resources ≠ []

@[simp] theorem rowResources_nil (e : Option Nat) : rowResources [] e = [] := rfl

theorem rowResources_cons (row : MissingUsageRow) (rows : List MissingUsageRow)
    (e : Option Nat) : rowResources (row :: rows) e =
      if row.customer = e then row.resources else rowResources rows e := by
  by_cases h : row.customer = e <;> simp [rowResources, List.find?_cons, h]

theorem rowResources_appendToFirstRow (d : List MissingUsageRow) (k : Option Nat)
    (r : Resource) (e : Option Nat) :
    rowResources (appendToFirstRow d k r) e =
      if e = k then rowResources d e ++ [r] else rowResources d e := by
  induction d with
  | nil => by_cases h : e = k <;> simp [appendToFirstRow, rowResources_cons, h, Ne.symm]
  | cons row rows ih =>
    by_cases hk : row.customer = k <;> by_cases he : row.customer = e
    · subst hk he; simp [appendToFirstRow, rowResources_cons]
    · subst hk; simp [appendToFirstRow, rowResources_cons, he, Ne.symm he]
    · subst he; simp [appendToFirstRow, rowResources_cons, hk]
    · simp [appendToFirstRow, rowResources_cons, hk, he, ih]

theorem customers_appendToFirstRow (d : List MissingUsageRow) (k : Option Nat)
    (r : Resource) : (appendToFirstRow d k r).map (·.customer) =
      if k ∈ d.map (·.customer) then d.map (·.customer) else d.map (·.customer) ++ [k] := by
  induction d with
  | nil => simp [appendToFirstRow]
  | cons row rows ih =>
    by_cases hk : row.customer = k
    · simp [appendToFirstRow, hk]
    · by_cases hm : k ∈ rows.map (·.customer) <;>
        simp [appendToFirstRow, hk, Ne.symm hk, ih, hm]

theorem ReportWellFormed.appendToFirstRow {d : List MissingUsageRow} (h : ReportWellFormed d)
    (k : Option Nat) (r : Resource) : ReportWellFormed (appendToFirstRow d k r) where
  customers_nodup := by
    rw [customers_appendToFirstRow]
    split
    · exact h.customers_nodup
    · next hk => exact h.customers_nodup.append (List.nodup_singleton k) (by simpa using hk)
  resources_ne_nil := by
    induction d with
    | nil => simp [Waldur.appendToFirstRow]
    | cons row rows ih =>
      have hrows : ReportWellFormed rows :=
        ⟨(List.nodup_cons.mp h.customers_nodup).2,
          fun x hx => h.resources_ne_nil x (List.mem_cons_of_mem row hx)⟩
      have hrow := h.resources_ne_nil row (List.mem_cons_self row rows)
      unfold Waldur.appendToFirstRow
      split
      · simp only [List.mem_cons, forall_eq_or_imp]
        exact ⟨by simp, hrows.resources_ne_nil⟩
      · simp only [List.mem_cons, forall_eq_or_imp]
        exact ⟨hrow, ih hrows⟩

/-- The loop over resources whose organizations are found: the rows stay one per
organization, and each organization's row gains that organization's resources, in order. -/
theorem foldlM_reportResource (s : Store) (key : Resource → Option Nat) (rs : List Resource)
    (hkey : ∀ r ∈ rs, offeringCustomerOf s r = .ok (key r)) (d : List MissingUsageRow)
    (hd : ReportWellFormed d) :
    ∃ d', rs.foldlM (reportResource s) d = .ok d' ∧ ReportWellFormed d' ∧
      ∀ e, rowResources d' e = rowResources d e ++ rs.filter (key · == e) := by
  induction rs generalizing d with
  | nil => exact ⟨d, rfl, hd, by simp⟩
  | cons r rs ih =>
    obtain ⟨d', hrun, hwf, hrows⟩ := ih (fun x hx => hkey x (List.mem_cons_of_mem r hx))
      (appendToFirstRow d (key r) r) (hd.appendToFirstRow (key r) r)
    refine ⟨d', ?_, hwf, fun e => ?_⟩
    · simpa [reportResource, hkey r (List.mem_cons_self r rs)] using hrun
    · rw [hrows, rowResources_appendToFirstRow, List.filter_cons]
      by_cases he : e = key r
      · simp [he]
      · simp [he, Ne.symm he]

theorem mem_rowResources {report : List MissingUsageRow} {e : Option Nat} {x : Resource}
    (hx : x ∈ rowResources report e) :
    ∃ row ∈ report, row.customer = e ∧ row.resources = rowResources report e := by
  unfold rowResources at hx ⊢
  cases hf : report.find? (·.customer == e) with
  | none => simp [hf] at hx
  | some row =>
    exact ⟨row, List.mem_of_find?_eq_some hf, by simpa using List.find?_some hf, by simp⟩

theorem rowResources_of_mem {report : List MissingUsageRow}
    (h : (report.map (·.customer)).Nodup) {row : MissingUsageRow} (hrow : row ∈ report) :
    rowResources report row.customer = row.resources := by
  induction report with
  | nil => cases hrow
  | cons row' rows ih =>
    rw [rowResources_cons]
    rcases List.mem_cons.mp hrow with rfl | hmem
    · simp
    · have hnd := List.nodup_cons.mp h
      have hne : row'.customer ≠ row.customer := fun heq =>
        hnd.1 (List.mem_map.mpr ⟨row, hmem, heq.symm⟩)
      rw [if_neg hne]
      exact ih hnd.2 hmem

/-- The report runs the loop over the resources it is about. -/
theorem getInfoAboutMissingUsageReports_eq (offeringTypes : List String)
    (enableUsageNotifications : String → Bool) (s : Store) (now : DateTime) :
    getInfoAboutMissingUsageReports offeringTypes enableUsageNotifications s now =
      (s.resources.rows.filter
        (missesUsageReport offeringTypes enableUsageNotifications s now)).foldlM
        (reportResource s) [] := by
  simp only [getInfoAboutMissingUsageReports, resourcesWithoutUsages_eq]

/-- The loop of the report, run over the resources the report is about, gives the report it
should. -/
theorem foldlM_reportResource_groups (offeringTypes : List String)
    (enableUsageNotifications : String → Bool) (s : Store) (now : DateTime)
    (hcustomers : ∀ o ∈ s.offerings.rows, o.customer.all (· ∈ s.customers.keys)) :
    ∃ report, (s.resources.rows.filter
        (missesUsageReport offeringTypes enableUsageNotifications s now)).foldlM
        (reportResource s) [] = .ok report ∧
      GroupsMissingUsage offeringTypes enableUsageNotifications s now report := by
  obtain ⟨report, hrun, hwf, hrows⟩ := foldlM_reportResource s (offeringCustomer s)
    (s.resources.rows.filter (missesUsageReport offeringTypes enableUsageNotifications s now))
    (fun r hr => offeringCustomerOf_eq offeringTypes enableUsageNotifications s now hcustomers
      (List.mem_filter.mp hr).2) [] ⟨List.nodup_nil, by simp⟩
  refine ⟨report, hrun, hwf.customers_nodup, hwf.resources_ne_nil, fun c => ?_⟩
  rw [hrows, rowResources_nil, List.nil_append, List.filter_filter]
  exact List.filter_congr fun r _ => Bool.and_comm _ _

/-- Where every offering's organization is in the database, the report has one row per
organization, none of them empty, listing exactly the resources of that organization's
offerings that miss a usage report, in database order. -/
theorem missing_usage_report_groups_by_customer (offeringTypes : List String)
    (enableUsageNotifications : String → Bool) (s : Store) (now : DateTime)
    (hcustomers : ∀ o ∈ s.offerings.rows, o.customer.all (· ∈ s.customers.keys)) :
    ∃ report, getInfoAboutMissingUsageReports offeringTypes enableUsageNotifications s now =
        .ok report ∧ GroupsMissingUsage offeringTypes enableUsageNotifications s now report := by
  rw [getInfoAboutMissingUsageReports_eq]
  exact foldlM_reportResource_groups offeringTypes enableUsageNotifications s now hcustomers

/-- An organization with a usage-billed offering and one OK resource, with nothing reported. -/
def unreportedStore : Store where
  customers := ⟨[⟨1, "Org", false⟩], by decide⟩
  offerings := ⟨[⟨1, "Cluster", "SLURM", true, true, some 1, none, none, 1, none, .active⟩],
    by decide⟩
  offeringComponents := ⟨[⟨1, 1, none, "cpu", .usage, none, none, none, none⟩], by decide⟩
  resources := ⟨[⟨1, 1, 1, .ok, none, none⟩], by decide⟩

/-- The day the task runs. -/
def reportDay : DateTime := ⟨⟨2024, 5, 17⟩, 0⟩

theorem missing_usage_report_groups_by_customer_on_unreported_resource :
    (∀ o ∈ unreportedStore.offerings.rows,
      o.customer.all (· ∈ unreportedStore.customers.keys)) ∧
    ∃ report, getInfoAboutMissingUsageReports ["SLURM"] (fun _ => true) unreportedStore
        reportDay = .ok report ∧
      GroupsMissingUsage ["SLURM"] (fun _ => true) unreportedStore reportDay report :=
  ⟨by decide, missing_usage_report_groups_by_customer ["SLURM"] (fun _ => true) unreportedStore
    reportDay (by decide)⟩

/-! ## The notification task -/

section Task

variable (ownerEmails : Nat → List String) (publicResourcesUrl : Nat → String)
  (enableNotifications : Nat → Option Bool)

/-- The mail the loop sends for a warning: one when its organization has notifications on
and owners to write to. -/
def usageMail (warning : MissingUsageRow) : Option UsageMail :=
  warning.customer.bind fun c =>
    if enableNotifications c = some true ∧ ownerEmails c ≠ [] then
      some ⟨c, warning.resources, publicResourcesUrl c, ownerEmails c⟩
    else none

theorem notifyAboutMissingUsage_apply {warning : MissingUsageRow} {c : Nat} {enabled : Bool}
    (hc : warning.customer = some c) (he : enableNotifications c = some enabled)
    (sent : List UsageMail) :
    notifyAboutMissingUsage ownerEmails publicResourcesUrl enableNotifications warning sent =
      .ok () (sent ++
        (usageMail ownerEmails publicResourcesUrl enableNotifications warning).toList) := by
  cases enabled <;> cases ho : ownerEmails c <;>
    simp [notifyAboutMissingUsage, usageMail, hc, he, ho] <;> rfl

/-- The loop over warnings whose organizations all have a service provider sends, in order,
the mail of each. -/
theorem forM_notifyAboutMissingUsage (rows : List MissingUsageRow)
    (hrows : ∀ row ∈ rows, ∃ c, row.customer = some c ∧ (enableNotifications c).isSome)
    (sent : List UsageMail) :
    rows.forM (notifyAboutMissingUsage ownerEmails publicResourcesUrl enableNotifications) sent =
      .ok () (sent ++
        rows.filterMap (usageMail ownerEmails publicResourcesUrl enableNotifications)) := by
  induction rows generalizing sent with
  | nil => simp; rfl
  | cons row rows ih =>
    obtain ⟨c, hc, he⟩ := hrows row (List.mem_cons_self row rows)
    obtain ⟨enabled, he⟩ := Option.isSome_iff_exists.mp he
    rw [List.forM_cons', bind_of_ok (notifyAboutMissingUsage_apply ownerEmails publicResourcesUrl
      enableNotifications hc he sent), ih (fun r hr => hrows r (List.mem_cons_of_mem row hr)),
      List.filterMap_cons]
    cases usageMail ownerEmails publicResourcesUrl enableNotifications row <;> simp

/-- A mail determines the warning it was sent for. -/
theorem usageMail_eq_some {warning : MissingUsageRow} {m : UsageMail}
    (h : usageMail ownerEmails publicResourcesUrl enableNotifications warning = some m) :
    warning = ⟨some m.customer, m.resources⟩ ∧ enableNotifications m.customer = some true ∧
      m.emails = ownerEmails m.customer ∧ m.emails ≠ [] ∧
      m.publicResourcesUrl = publicResourcesUrl m.customer := by
  obtain ⟨customer, resources⟩ := warning
  cases customer with
  | none => cases h
  | some c =>
    simp only [usageMail, Option.some_bind] at h
    split at h
    · next hc =>
      cases h
      exact ⟨rfl, hc.1, rfl, hc.2, rfl⟩
    · cases h

variable (offeringTypes : List String) (enableUsageNotifications : String → Bool) (s : Store)
  (now : DateTime)

/-- What the task should send: at most one mail per organization; each only when the
organization has notifications on, to its owners, with its link, about exactly the resources
of its offerings that miss a usage report; and one to every such organization with a
resource that misses a report. -/
structure NotifiesMissingUsage (mails : List UsageMail) : Prop where
  customers_nodup : (mails.map (·.customer)).Nodup
  sound : ∀ m ∈ mails, enableNotifications m.customer = some true ∧
    m.emails = ownerEmails m.customer ∧ m.emails ≠ [] ∧
    m.publicResourcesUrl = publicResourcesUrl m.customer ∧
    m.resources = s.resources.rows.filter fun r =>
      missesUsageReport offeringTypes enableUsageNotifications s now r &&
        offeringCustomer s r == some m.customer
  complete : ∀ c, enableNotifications c = some true → ownerEmails c ≠ [] →
    (∃ r ∈ s.resources.rows,
      missesUsageReport offeringTypes enableUsageNotifications s now r ∧
        offeringCustomer s r = some c) → ∃ m ∈ mails, m.customer = c

variable {offeringTypes enableUsageNotifications s now}

/-- Every row of the report names an organization with a service provider, when every
resource it is about has one. -/
theorem GroupsMissingUsage.rows_named {report : List MissingUsageRow}
    (h : GroupsMissingUsage offeringTypes enableUsageNotifications s now report)
    (hproviders : ∀ r ∈ s.resources.rows,
      missesUsageReport offeringTypes enableUsageNotifications s now r →
        (offeringCustomer s r).any fun c => (enableNotifications c).isSome) :
    ∀ row ∈ report, ∃ c, row.customer = some c ∧ (enableNotifications c).isSome := by
  intro row hrow
  obtain ⟨x, hx⟩ := List.exists_mem_of_ne_nil _ (h.resources_ne_nil row hrow)
  rw [← rowResources_of_mem h.customers_nodup hrow, h.rowResources_eq] at hx
  simp only [List.mem_filter, Bool.and_eq_true, beq_iff_eq] at hx
  have hp := hproviders x hx.1 hx.2.1
  rw [hx.2.2] at hp
  cases hc : row.customer with
  | none => simp [hc] at hp
  | some c => exact ⟨c, rfl, by simpa [hc] using hp⟩

/-- The mails of the report's rows are what the task should send. -/
theorem GroupsMissingUsage.notifies {report : List MissingUsageRow}
    (h : GroupsMissingUsage offeringTypes enableUsageNotifications s now report) :
    NotifiesMissingUsage ownerEmails publicResourcesUrl enableNotifications offeringTypes
      enableUsageNotifications s now
      (report.filterMap (usageMail ownerEmails publicResourcesUrl enableNotifications)) := by
  have hsound : ∀ m ∈ report.filterMap (usageMail ownerEmails publicResourcesUrl
      enableNotifications), enableNotifications m.customer = some true ∧
        m.emails = ownerEmails m.customer ∧ m.emails ≠ [] ∧
        m.publicResourcesUrl = publicResourcesUrl m.customer ∧
        m.resources = rowResources report (some m.customer) := by
    intro m hm
    obtain ⟨row, hrow, hmail⟩ := List.mem_filterMap.mp hm
    obtain ⟨rfl, hrest⟩ := usageMail_eq_some ownerEmails publicResourcesUrl enableNotifications
      hmail
    exact ⟨hrest.1, hrest.2.1, hrest.2.2.1, hrest.2.2.2,
      (rowResources_of_mem h.customers_nodup hrow).symm⟩
  constructor
  · have hinj : ∀ row row' m,
        m ∈ usageMail ownerEmails publicResourcesUrl enableNotifications row →
        m ∈ usageMail ownerEmails publicResourcesUrl enableNotifications row' → row = row' :=
      fun row row' m h h' =>
        (usageMail_eq_some ownerEmails publicResourcesUrl enableNotifications h).1.trans
          (usageMail_eq_some ownerEmails publicResourcesUrl enableNotifications h').1.symm
    refine ((List.Nodup.of_map _ h.customers_nodup).filterMap hinj).map_on ?_
    intro m hm m' hm' hc
    obtain ⟨-, he, -, hu, hr⟩ := hsound m hm
    obtain ⟨-, he', -, hu', hr'⟩ := hsound m' hm'
    obtain ⟨c, rs, url, emails⟩ := m
    obtain ⟨c', rs', url', emails'⟩ := m'
    dsimp only at hc he hu hr he' hu' hr'
    subst hc
    simp only [UsageMail.mk.injEq, true_and]
    exact ⟨hr.trans hr'.symm, hu.trans hu'.symm, he.trans he'.symm⟩
  · intro m hm
    obtain ⟨h1, h2, h3, h4, h5⟩ := hsound m hm
    exact ⟨h1, h2, h3, h4, h5.trans (h.rowResources_eq _)⟩
  · rintro c hen how ⟨r, hr, hmiss, hoc⟩
    have hmem : r ∈ rowResources report (some c) := by
      rw [h.rowResources_eq]
      simp [hr, hmiss, hoc]
    obtain ⟨row, hrow, hrc, -⟩ := mem_rowResources hmem
    refine ⟨⟨c, row.resources, publicResourcesUrl c, ownerEmails c⟩,
      List.mem_filterMap.mpr ⟨row, hrow, ?_⟩, rfl⟩
    simp [usageMail, hrc, hen, how]

/-- A warning without an organization makes the loop raise, at the latest when it reaches
that warning. -/
theorem forM_notifyAboutMissingUsage_raises (rows : List MissingUsageRow)
    (hrows : ∃ row ∈ rows, row.customer = none) (sent : List UsageMail) :
    ∃ e sent', rows.forM (notifyAboutMissingUsage ownerEmails publicResourcesUrl
      enableNotifications) sent = .error e sent' := by
  induction rows generalizing sent with
  | nil => simp at hrows
  | cons row rows ih =>
    rw [List.forM_cons', bind_apply]
    by_cases hc : row.customer = none
    · exact ⟨_, sent, by simp [notifyAboutMissingUsage, hc]; rfl⟩
    · have hrest : ∃ row ∈ rows, row.customer = none := by
        obtain ⟨row', hrow', hc'⟩ := hrows
        rcases List.mem_cons.mp hrow' with rfl | hmem
        · exact absurd hc' hc
        · exact ⟨row', hmem, hc'⟩
      cases notifyAboutMissingUsage ownerEmails publicResourcesUrl enableNotifications row sent with
      | ok _ sent₁ => exact ih hrest sent₁
      | error e sent₁ => exact ⟨e, sent₁, rfl⟩

end Task

/-- The task reads the report its loop builds, then runs its own loop over it. -/
theorem sendNotificationsAboutUsages_eq_forM {offeringTypes : List String}
    {enableUsageNotifications : String → Bool} {ownerEmails : Nat → List String}
    {publicResourcesUrl : Nat → String} {enableNotifications : Nat → Option Bool} {s : Store}
    {now : DateTime} {report : List MissingUsageRow}
    (hrun : (s.resources.rows.filter
      (missesUsageReport offeringTypes enableUsageNotifications s now)).foldlM
        (reportResource s) [] = .ok report) (sent : List UsageMail) :
    sendNotificationsAboutUsages offeringTypes enableUsageNotifications ownerEmails
        publicResourcesUrl enableNotifications s now sent =
      report.forM (notifyAboutMissingUsage ownerEmails publicResourcesUrl enableNotifications)
        sent := by
  have hget : ofExcept (getInfoAboutMissingUsageReports offeringTypes enableUsageNotifications
      s now) sent = .ok report sent := by
    rw [getInfoAboutMissingUsageReports_eq, hrun]
    rfl
  rw [sendNotificationsAboutUsages, bind_of_ok hget]

/-- Where every offering's organization is in the database and every organization the report
names has a service provider, the task mails each organization with notifications on and
owners once, to its owners, about exactly the resources of its offerings that miss a usage
report, and mails no one else. -/
theorem usage_notifications_reach_each_customer_once (offeringTypes : List String)
    (enableUsageNotifications : String → Bool) (ownerEmails : Nat → List String)
    (publicResourcesUrl : Nat → String) (enableNotifications : Nat → Option Bool) (s : Store)
    (now : DateTime)
    (hcustomers : ∀ o ∈ s.offerings.rows, o.customer.all (· ∈ s.customers.keys))
    (hproviders : ∀ r ∈ s.resources.rows,
      missesUsageReport offeringTypes enableUsageNotifications s now r →
        (offeringCustomer s r).any fun c => (enableNotifications c).isSome)
    (sent : List UsageMail) :
    ∃ mails, sendNotificationsAboutUsages offeringTypes enableUsageNotifications ownerEmails
        publicResourcesUrl enableNotifications s now sent = .ok () (sent ++ mails) ∧
      NotifiesMissingUsage ownerEmails publicResourcesUrl enableNotifications offeringTypes
        enableUsageNotifications s now mails := by
  obtain ⟨report, hrun, hwf⟩ :=
    foldlM_reportResource_groups offeringTypes enableUsageNotifications s now hcustomers
  refine ⟨_, ?_, hwf.notifies ownerEmails publicResourcesUrl enableNotifications⟩
  rw [sendNotificationsAboutUsages_eq_forM hrun]
  exact forM_notifyAboutMissingUsage ownerEmails publicResourcesUrl enableNotifications report
    (hwf.rows_named enableNotifications hproviders) sent

theorem usage_notifications_reach_each_customer_once_on_unreported_resource :
    (∀ o ∈ unreportedStore.offerings.rows,
      o.customer.all (· ∈ unreportedStore.customers.keys)) ∧
    (∀ r ∈ unreportedStore.resources.rows,
      missesUsageReport ["SLURM"] (fun _ => true) unreportedStore reportDay r →
        (offeringCustomer unreportedStore r).any fun _ => (some true).isSome) ∧
    ∃ mails, sendNotificationsAboutUsages ["SLURM"] (fun _ => true) (fun _ => ["owner"])
        (fun _ => "") (fun _ => some true) unreportedStore reportDay [] = .ok () ([] ++ mails) ∧
      NotifiesMissingUsage (fun _ => ["owner"]) (fun _ => "") (fun _ => some true) ["SLURM"]
        (fun _ => true) unreportedStore reportDay mails :=
  ⟨by decide, by decide, usage_notifications_reach_each_customer_once ["SLURM"] (fun _ => true)
    (fun _ => ["owner"]) (fun _ => "") (fun _ => some true) unreportedStore reportDay
    (by decide) (by decide) []⟩

/-- A resource that misses a usage report on an offering without an organization makes every
run of the task end in an exception: `customer.get_owners()` is called on `None`. -/
theorem usage_notifications_raise_on_offering_without_customer (offeringTypes : List String)
    (enableUsageNotifications : String → Bool) (ownerEmails : Nat → List String)
    (publicResourcesUrl : Nat → String) (enableNotifications : Nat → Option Bool) (s : Store)
    (now : DateTime)
    (hcustomers : ∀ o ∈ s.offerings.rows, o.customer.all (· ∈ s.customers.keys))
    (hunowned : ∃ r ∈ s.resources.rows,
      missesUsageReport offeringTypes enableUsageNotifications s now r ∧
        offeringCustomer s r = none)
    (sent : List UsageMail) :
    ∃ e sent', sendNotificationsAboutUsages offeringTypes enableUsageNotifications ownerEmails
      publicResourcesUrl enableNotifications s now sent = .error e sent' := by
  obtain ⟨report, hrun, hwf⟩ :=
    foldlM_reportResource_groups offeringTypes enableUsageNotifications s now hcustomers
  obtain ⟨r, hr, hmiss, hnone⟩ := hunowned
  have hmem : r ∈ rowResources report none := by
    rw [hwf.rowResources_eq]
    simp [hr, hmiss, hnone]
  obtain ⟨row, hrow, hrc, -⟩ := mem_rowResources hmem
  rw [sendNotificationsAboutUsages_eq_forM hrun]
  exact forM_notifyAboutMissingUsage_raises ownerEmails publicResourcesUrl enableNotifications
    report ⟨row, hrow, hrc⟩ sent

/-- A usage-billed offering without an organization, with one OK resource and nothing
reported. -/
def unownedStore : Store where
  offerings := ⟨[⟨1, "Cluster", "SLURM", true, true, none, none, none, 1, none, .active⟩],
    by decide⟩
  offeringComponents := ⟨[⟨1, 1, none, "cpu", .usage, none, none, none, none⟩], by decide⟩
  resources := ⟨[⟨1, 1, 1, .ok, none, none⟩], by decide⟩

theorem usage_notifications_raise_on_unowned_offering :
    (∀ o ∈ unownedStore.offerings.rows, o.customer.all (· ∈ unownedStore.customers.keys)) ∧
    (∃ r ∈ unownedStore.resources.rows,
      missesUsageReport ["SLURM"] (fun _ => true) unownedStore reportDay r ∧
        offeringCustomer unownedStore r = none) ∧
    ∃ e sent', sendNotificationsAboutUsages ["SLURM"] (fun _ => true) (fun _ => ["owner"])
      (fun _ => "") (fun _ => some true) unownedStore reportDay [] = .error e sent' :=
  ⟨by decide, ⟨⟨1, 1, 1, .ok, none, none⟩, by decide, by decide, rfl⟩,
    usage_notifications_raise_on_offering_without_customer ["SLURM"] (fun _ => true)
      (fun _ => ["owner"]) (fun _ => "") (fun _ => some true) unownedStore reportDay (by decide)
      ⟨⟨1, 1, 1, .ok, none, none⟩, by decide, by decide, rfl⟩ []⟩

end Waldur
