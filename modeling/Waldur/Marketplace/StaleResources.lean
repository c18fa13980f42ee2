/-
# Stale-resource notifications

`notify_about_stale_resource` (in `marketplace/tasks.py`) collects the resources that were
billed in the invoices of the current and the two previous months, reports every other live
resource of a billable offering to the owners of its customer, and sends one mail per owner
email. The loop over the invoice items reads `item.resource.id` for each priced item, and the
resource of an invoice item may be absent. `InvoiceItem.price`, `Customer.get_owners`,
`format_homeport_link` and `broadcast_mail` are not in the source: the first three are
parameters, and the mails are the result.
-/

import Waldur.Marketplace.Store

namespace Waldur

/-- `today - relativedelta(months=k)`, as the task reads it: its year and month. -/
def monthsAgo (today : Date) (k : Nat) : Nat × Nat :=
  let index := today.year * 12 + (today.month - 1) - k
  (index / 12, index % 12 + 1)

/-- The invoice items of the invoices of the current and the two previous months. -/
def windowItems (s : Store) (today : Date) : List InvoiceItem :=
  s.invoiceItems.rows.filter fun item =>
    (s.invoices.get? item.invoice).any fun invoice =>
      (invoice.year, invoice.month) ∈ [monthsAgo today 0, monthsAgo today 1, monthsAgo today 2]

/-- `item.resource.id`: an item without a resource raises `AttributeError`. -/
def InvoiceItem.resourceId (s : Store) (item : InvoiceItem) : Except Error Nat :=
  match item.resource with
  | none => .error (.attributeError "'NoneType' object has no attribute 'id'")
  | some key => do
      let resource ← s.resources.fetch key "Resource"
      pure resource.id

/-- `if item.price: actual_resources_ids.append(item.resource.id)`: the ids one item adds. -/
def InvoiceItem.billedIds (price : InvoiceItem → ℚ) (s : Store) (item : InvoiceItem) :
    Except Error (List Nat) :=
  if price item ≠ 0 then (fun id => [id]) <$> item.resourceId s else .ok []

/-- The loop `for item in items` that collects `actual_resources_ids`. -/
def actualResourcesIds (price : InvoiceItem → ℚ) (s : Store) :
    List InvoiceItem → Except Error (List Nat)
  | [] => .ok []
  | item :: rest => do
      let head ← item.billedIds price s
      let tail ← actualResourcesIds price s rest
      pure (head ++ tail)

/-- The resources the task reports: not billed in the window, not Terminated, Terminating or
Creating, and of a billable offering. -/
def resourcesToNotify (s : Store) (ids : List Nat) : List Resource :=
  s.resources.rows.filter fun r =>
    r.id ∉ ids && r.state ∉ [ResourceState.terminated, .terminating, .creating] &&
      (s.offerings.get? r.offering).any (·.billable)

/-- `user_resources[key].append(value)` on a `defaultdict(list)`: the keys stay in the order
they were first used. -/
def appendTo {α : Type} : List (String × List α) → String → α → List (String × List α)
  | [], key, value => [(key, [value])]
  | (k, vs) :: rest, key, value =>
      if k = key then (k, vs ++ [value]) :: rest else (k, vs) :: appendTo rest key value

/-- The loop over the reported resources: each is appended, with its `resource_url`, to the
list of every owner email of its customer that is not empty. -/
def collectUserResources (ownerEmails : Nat → List String)
    (resourceUrl : Project → Resource → String) (s : Store) :
    List (String × List (Resource × String)) → List Resource →
      Except Error (List (String × List (Resource × String)))
  | userResources, [] => .ok userResources
  | userResources, resource :: rest => do
      let project ← s.projects.fetch resource.project "Project"
      let customer ← s.customers.fetch project.customer "Customer"
      let owners := (ownerEmails customer.id).filter (· ≠ "")
      let entry := (resource, resourceUrl project resource)
      collectUserResources ownerEmails resourceUrl s
        (owners.foldl (fun acc email => appendTo acc email entry) userResources) rest

/-- `notify_about_stale_resource()`: the mails `broadcast_mail` sends, one per owner email with
the list of its resources. -/
def notifyAboutStaleResource (enabled : Bool) (today : Date) (price : InvoiceItem → ℚ)
    (ownerEmails : Nat → List String) (resourceUrl : Project → Resource → String)
    (s : Store) : Except Error (List (String × List (Resource × String))) := do
  if !enabled then return []
  let ids ← actualResourcesIds price s (windowItems s today)
  collectUserResources ownerEmails resourceUrl s [] (resourcesToNotify s ids)

/-! ## `defaultdict(list)` -/

section AppendTo

variable {α : Type}

theorem lookup_appendTo (d : List (String × List α)) (key : String) (value : α) (e : String) :
    (appendTo d key value).lookup e =
      if e = key then some ((d.lookup e).getD [] ++ [value]) else d.lookup e := by
  induction d with
  | nil =>
      by_cases h : e = key
      · simp [appendTo, h]
      · simp [appendTo, List.lookup_cons, beq_false_of_ne h, h]
  | cons kv rest ih =>
      obtain ⟨k, vs⟩ := kv
      by_cases h : e = k
      · subst h
        by_cases hk : e = key <;> simp [appendTo, hk]
      · by_cases hk : k = key
        · subst hk
          simp [appendTo, List.lookup_cons, h, beq_false_of_ne h]
        · simp [appendTo, List.lookup_cons, hk, beq_false_of_ne h, ih]

theorem keys_appendTo (d : List (String × List α)) (key : String) (value : α) :
    (appendTo d key value).map Prod.fst =
      if key ∈ d.map Prod.fst then d.map Prod.fst else d.map Prod.fst ++ [key] := by
  induction d with
  | nil => simp [appendTo]
  | cons kv rest ih =>
      obtain ⟨k, vs⟩ := kv
      by_cases hk : k = key
      · simp [appendTo, hk]
      · by_cases hmem : key ∈ rest.map Prod.fst <;>
          simp_all [appendTo, Ne.symm hk]

/-- A dictionary as the loop builds it: each key once, each list non-empty. -/
def DictWellFormed (d : List (String × List α)) : Prop :=
  (d.map Prod.fst).Nodup ∧ ∀ e, d.lookup e ≠ some []

theorem DictWellFormed.appendTo {d : List (String × List α)} (h : DictWellFormed d)
    (key : String) (value : α) : DictWellFormed (appendTo d key value) := by
  refine ⟨?_, fun e => ?_⟩
  · rw [keys_appendTo]
    split_ifs with hkey
    · exact h.1
    · exact List.nodup_append.mpr
        ⟨h.1, List.nodup_singleton _, by simpa [List.disjoint_singleton] using hkey⟩
  · rw [lookup_appendTo]
    split
    · simp
    · exact h.2 e

/-- Appending one value under each of `keys`, in order. -/
theorem foldl_appendTo {d : List (String × List α)} (h : DictWellFormed d)
    (keys : List String) (value : α) :
    DictWellFormed (keys.foldl (fun acc key => appendTo acc key value) d) ∧
      ∀ e, ((keys.foldl (fun acc key => appendTo acc key value) d).lookup e).getD [] =
        (d.lookup e).getD [] ++ (keys.filter (· = e)).map fun _ => value := by
  induction keys generalizing d with
  | nil => simpa using h
  | cons key rest ih =>
      obtain ⟨hwf, hlookup⟩ := ih (h.appendTo key value)
      refine ⟨hwf, fun e => ?_⟩
      rw [List.foldl_cons, hlookup, lookup_appendTo]
      by_cases he : e = key
      · subst he
        simp
      · simp [he, Ne.symm he]

/-- In a well-formed dictionary a key is absent exactly when it would list nothing. -/
theorem DictWellFormed.lookup_eq [DecidableEq α] {d : List (String × List α)}
    (h : DictWellFormed d)
    (e : String) :
    d.lookup e = if (d.lookup e).getD [] = [] then none else some ((d.lookup e).getD []) := by
  cases hd : d.lookup e with
  | none => rfl
  | some vs =>
      have hne : vs ≠ [] := fun hvs => h.2 e (hvs ▸ hd)
      simp [hne]

end AppendTo

/-! ## What the task reports when every priced item has its resource -/

/-- Stale, as the specification defines it: not Terminated, Terminating or Creating, of a
billable offering, and with no priced item in the invoices of the current and the two previous
months. -/
def isStale (price : InvoiceItem → ℚ) (s : Store) (today : Date) (r : Resource) : Bool :=
  r.state ∉ [ResourceState.terminated, .terminating, .creating] &&
    (s.offerings.get? r.offering).any (·.billable) &&
    !(windowItems s today).any fun item => price item ≠ 0 && item.resource = some r.id

/-- What one resource adds to the mail of `email`: itself and its link, once per owner of its
customer with that email. -/
def mailEntries (ownerEmails : Nat → List String) (resourceUrl : Project → Resource → String)
    (s : Store) (email : String) (r : Resource) : List (Resource × String) :=
  match s.projects.get? r.project with
  | some project =>
      ((ownerEmails project.customer).filter fun e => e ≠ "" && e = email).map fun _ =>
        (r, resourceUrl project r)
  | none => []

/-- The mail `email` should receive: the stale resources of the customers it owns. -/
def staleMail (price : InvoiceItem → ℚ) (ownerEmails : Nat → List String)
    (resourceUrl : Project → Resource → String) (s : Store) (today : Date) (email : String) :
    List (Resource × String) :=
  (s.resources.rows.filter (isStale price s today)).flatMap
    (mailEntries ownerEmails resourceUrl s email)

section Attached

variable {price : InvoiceItem → ℚ} {s : Store}

theorem billedIds_of_attached {item : InvoiceItem}
    (h : price item ≠ 0 → ∃ r ∈ s.resources.rows, item.resource = some r.id) :
    item.billedIds price s = .ok (if price item ≠ 0 then item.resource.toList else []) := by
  unfold InvoiceItem.billedIds
  split_ifs with hp
  · obtain ⟨r, hr, hres⟩ := h hp
    have hget : s.resources.get? r.id = some r := Table.get?_eq_some_iff.mpr ⟨hr, rfl⟩
    simp [InvoiceItem.resourceId, hres, Table.fetch, hget]
  · rfl

theorem actualResourcesIds_of_attached {items : List InvoiceItem}
    (h : ∀ item ∈ items, price item ≠ 0 → ∃ r ∈ s.resources.rows, item.resource = some r.id) :
    actualResourcesIds price s items =
      .ok (items.flatMap fun item => if price item ≠ 0 then item.resource.toList else []) := by
  induction items with
  | nil => rfl
  | cons item rest ih =>
      simp [actualResourcesIds, billedIds_of_attached (h item (.head _)),
        ih fun i hi => h i (.tail _ hi)]

/-- Excluding the ids the priced items name leaves exactly the stale resources. -/
theorem resourcesToNotify_of_billed (today : Date) :
    resourcesToNotify s ((windowItems s today).flatMap fun item =>
        if price item ≠ 0 then item.resource.toList else []) =
      s.resources.rows.filter (isStale price s today) := by
  refine List.filter_congr fun r _ => ?_
  have hbilled : r.id ∈ (windowItems s today).flatMap (fun item =>
        if price item ≠ 0 then item.resource.toList else []) ↔
      ∃ item ∈ windowItems s today, price item ≠ 0 ∧ item.resource = some r.id := by
    simp [List.mem_flatMap, eq_comm]
  have hany : ((windowItems s today).any fun item =>
        decide (price item ≠ 0) && decide (item.resource = some r.id)) =
      decide (∃ item ∈ windowItems s today, price item ≠ 0 ∧ item.resource = some r.id) :=
    Bool.eq_iff_iff.mpr (by simp [List.any_eq_true])
  simp only [resourcesToNotify, isStale, hbilled]
  rw [hany]
  simp only [decide_not, Bool.and_comm, Bool.and_left_comm, Bool.and_assoc]

/-- The loop over the reported resources appends each resource's entries to the lists of its
owners' emails, as long as every resource's project and customer are stored. -/
theorem collectUserResources_spec (ownerEmails : Nat → List String)
    (resourceUrl : Project → Resource → String)
    (hprojects : ∀ r ∈ s.resources.rows, ∃ p ∈ s.projects.rows, p.id = r.project ∧
      ∃ c ∈ s.customers.rows, c.id = p.customer)
    {d : List (String × List (Resource × String))} (hd : DictWellFormed d)
    (rs : List Resource) (hrs : ∀ r ∈ rs, r ∈ s.resources.rows) :
    ∃ d', collectUserResources ownerEmails resourceUrl s d rs = .ok d' ∧ DictWellFormed d' ∧
      ∀ e, (d'.lookup e).getD [] =
        (d.lookup e).getD [] ++ rs.flatMap (mailEntries ownerEmails resourceUrl s e) := by
  induction rs generalizing d with
  | nil => exact ⟨d, rfl, hd, by simp⟩
  | cons r rest ih =>
      obtain ⟨p, hp, hpid, c, hc, hcid⟩ := hprojects r (hrs r (.head _))
      have hproject : s.projects.get? r.project = some p :=
        Table.get?_eq_some_iff.mpr ⟨hp, hpid⟩
      have hcustomer : s.customers.get? p.customer = some c :=
        Table.get?_eq_some_iff.mpr ⟨hc, hcid⟩
      obtain ⟨hwf, hlookup⟩ := foldl_appendTo hd ((ownerEmails c.id).filter (· ≠ ""))
        (r, resourceUrl p r)
      obtain ⟨d', hrun, hwf', hlookup'⟩ := ih hwf fun r' hr' => hrs r' (.tail _ hr')
      refine ⟨d', ?_, hwf', fun e => ?_⟩
      · simp only [collectUserResources, Table.fetch, hproject, hcustomer, except_ok_bind]
        exact hrun
      · rw [hlookup', hlookup, List.flatMap_cons, List.append_assoc]
        simp only [mailEntries, hproject, ← hcid, List.filter_filter, Bool.and_comm]

end Attached

/-- With notifications on, when every priced item of the window names a stored resource and
every resource's project and customer are stored, the task sends one mail per owner email
that has stale resources, listing exactly the stale resources of the customers it owns. -/
theorem notify_mails_owners_their_stale_resources (today : Date) (price : InvoiceItem → ℚ)
    (ownerEmails : Nat → List String) (resourceUrl : Project → Resource → String) (s : Store)
    (hitems : ∀ item ∈ windowItems s today, price item ≠ 0 →
      ∃ r ∈ s.resources.rows, item.resource = some r.id)
    (hprojects : ∀ r ∈ s.resources.rows, ∃ p ∈ s.projects.rows, p.id = r.project ∧
      ∃ c ∈ s.customers.rows, c.id = p.customer) :
    ∃ mails, notifyAboutStaleResource true today price ownerEmails resourceUrl s = .ok mails ∧
      (mails.map Prod.fst).Nodup ∧
      ∀ email, mails.lookup email =
        if staleMail price ownerEmails resourceUrl s today email = [] then none
        else some (staleMail price ownerEmails resourceUrl s today email) := by
  have hempty : DictWellFormed ([] : List (String × List (Resource × String))) :=
    ⟨List.nodup_nil, fun _ => by simp⟩
  obtain ⟨mails, hrun, hwf, hlookup⟩ := collectUserResources_spec ownerEmails resourceUrl
    hprojects hempty (s.resources.rows.filter (isStale price s today))
    fun r hr => (List.mem_filter.mp hr).1
  refine ⟨mails, ?_, hwf.1, fun email => ?_⟩
  · simp only [notifyAboutStaleResource, Bool.not_true, Bool.false_eq_true, if_false,
      actualResourcesIds_of_attached hitems, except_ok_bind, resourcesToNotify_of_billed, hrun]
    rfl
  · rw [hwf.lookup_eq email, hlookup email]
    simp [staleMail]

/-- A March 2024 invoice whose one priced item bills resource 1; resource 2 of the same
billable offering is billed nowhere. -/
def staleResourceStore : Store where
  customers := ⟨[⟨1, "Customer", false⟩], by decide⟩
  projects := ⟨[⟨1, 1, "Project", "p1", none⟩], by decide⟩
  offerings := ⟨[⟨1, "VM", "OpenStackTenant.Instance", true, true, some 1, none, none, 1, none,
    .active⟩], by decide⟩
  resources := ⟨[⟨1, 1, 1, .ok, none, none⟩, ⟨2, 1, 1, .ok, none, none⟩], by decide⟩
  invoices := ⟨[⟨1, 1, 2024, 3, .pending, 0⟩], by decide⟩
  invoiceItems := ⟨[⟨1, 1, some 1, some 1, "p1", "Project", "", ⟨none, none⟩,
    ⟨⟨2024, 3, 1⟩, 0⟩, ⟨⟨2024, 3, 31⟩, DateTime.endOfDay⟩, 1⟩], by decide⟩

theorem notify_mails_owners_their_stale_resources_on_march :
    (∀ item ∈ windowItems staleResourceStore ⟨2024, 3, 15⟩, (fun _ => (10 : ℚ)) item ≠ 0 →
      ∃ r ∈ staleResourceStore.resources.rows, item.resource = some r.id) ∧
    (∀ r ∈ staleResourceStore.resources.rows, ∃ p ∈ staleResourceStore.projects.rows,
      p.id = r.project ∧ ∃ c ∈ staleResourceStore.customers.rows, c.id = p.customer) ∧
    ∃ mails, notifyAboutStaleResource true ⟨2024, 3, 15⟩ (fun _ => 10) (fun _ => ["owner"])
        (fun _ _ => "") staleResourceStore = .ok mails ∧
      (mails.map Prod.fst).Nodup ∧
      ∀ email, mails.lookup email =
        if staleMail (fun _ => 10) (fun _ => ["owner"]) (fun _ _ => "") staleResourceStore
            ⟨2024, 3, 15⟩ email = [] then none
        else some (staleMail (fun _ => 10) (fun _ => ["owner"]) (fun _ _ => "")
          staleResourceStore ⟨2024, 3, 15⟩ email) :=
  have hitems : ∀ item ∈ windowItems staleResourceStore ⟨2024, 3, 15⟩,
      (fun _ => (10 : ℚ)) item ≠ 0 →
        ∃ r ∈ staleResourceStore.resources.rows, item.resource = some r.id := by decide
  have hprojects : ∀ r ∈ staleResourceStore.resources.rows,
      ∃ p ∈ staleResourceStore.projects.rows,
        p.id = r.project ∧ ∃ c ∈ staleResourceStore.customers.rows, c.id = p.customer := by
    decide
  ⟨hitems, hprojects, notify_mails_owners_their_stale_resources ⟨2024, 3, 15⟩ (fun _ => 10)
    (fun _ => ["owner"]) (fun _ _ => "") staleResourceStore hitems hprojects⟩

/-! ## A priced item without a resource -/

section Ids

variable {price : InvoiceItem → ℚ} {s : Store}

/-- Whenever an item of the list is priced and has no resource, the loop raises. -/
theorem actualResourcesIds_raises_of_unattached {items : List InvoiceItem}
    {item : InvoiceItem} (hmem : item ∈ items) (hprice : price item ≠ 0)
    (hnone : item.resource = none) : ∃ e, actualResourcesIds price s items = .error e := by
  induction items with
  | nil => cases hmem
  | cons first rest ih =>
      cases hhead : first.billedIds price s with
      | error e => exact ⟨e, by simp [actualResourcesIds, hhead]⟩
      | ok head =>
          rcases List.mem_cons.mp hmem with rfl | hrest
          · simp [InvoiceItem.billedIds, InvoiceItem.resourceId, hprice, hnone] at hhead
          · obtain ⟨e, he⟩ := ih hrest
            exact ⟨e, by simp [actualResourcesIds, hhead, he]⟩

end Ids

/-- With notifications on, one priced invoice item of the window without a resource makes
the whole task raise. -/
theorem notify_raises_of_unattached_priced_item (today : Date) (price : InvoiceItem → ℚ)
    (ownerEmails : Nat → List String) (resourceUrl : Project → Resource → String) (s : Store)
    {item : InvoiceItem} (hmem : item ∈ windowItems s today) (hprice : price item ≠ 0)
    (hnone : item.resource = none) :
    ∃ e, notifyAboutStaleResource true today price ownerEmails resourceUrl s = .error e := by
  obtain ⟨e, he⟩ : ∃ e, actualResourcesIds price s (windowItems s today) = .error e :=
    actualResourcesIds_raises_of_unattached hmem hprice hnone
  exact ⟨e, by simp [notifyAboutStaleResource, he]⟩

/-- A March 2024 invoice item whose resource is gone. -/
def unattachedItem : InvoiceItem :=
  ⟨1, 1, none, some 1, "p1", "Project", "", ⟨none, none⟩, ⟨⟨2024, 3, 1⟩, 0⟩,
    ⟨⟨2024, 3, 31⟩, DateTime.endOfDay⟩, 1⟩

/-- Its invoice, and one live resource of a billable offering. -/
def unattachedItemStore : Store where
  customers := ⟨[⟨1, "Customer", false⟩], by decide⟩
  projects := ⟨[⟨1, 1, "Project", "p1", none⟩], by decide⟩
  offerings := ⟨[⟨1, "VM", "OpenStackTenant.Instance", true, true, some 1, none, none, 1, none,
    .active⟩], by decide⟩
  resources := ⟨[⟨1, 1, 1, .ok, none, none⟩], by decide⟩
  invoices := ⟨[⟨1, 1, 2024, 3, .pending, 0⟩], by decide⟩
  invoiceItems := ⟨[unattachedItem], by decide⟩

theorem notify_raises_of_unattached_priced_item_on_march :
    unattachedItem ∈ windowItems unattachedItemStore ⟨2024, 3, 15⟩ ∧
    (fun _ => (10 : ℚ)) unattachedItem ≠ 0 ∧ unattachedItem.resource = none ∧
    ∃ e, notifyAboutStaleResource true ⟨2024, 3, 15⟩ (fun _ => 10) (fun _ => [])
      (fun _ _ => "") unattachedItemStore = .error e :=
  have hmem : unattachedItem ∈ windowItems unattachedItemStore ⟨2024, 3, 15⟩ := by decide
  have hprice : (fun _ => (10 : ℚ)) unattachedItem ≠ 0 := by decide
  ⟨hmem, hprice, rfl, notify_raises_of_unattached_priced_item ⟨2024, 3, 15⟩ (fun _ => 10)
    (fun _ => []) (fun _ _ => "") unattachedItemStore hmem hprice rfl⟩

/-- On 15 March 2024 the task raises at that item and sends no mail. -/
theorem stale_notification_raises_on_item_without_resource :
    notifyAboutStaleResource true ⟨2024, 3, 15⟩ (fun _ => 10) (fun _ => []) (fun _ _ => "")
        unattachedItemStore =
      .error (.attributeError "'NoneType' object has no attribute 'id'") :=
  rfl

end Waldur
