/-
# Recipients of a broadcast

`get_users_for_query` turns a broadcast query into the users it reaches: the users of the
organizations and projects the query names, of the organizations of the division types it
names, each organization read through the customer roles and each project through the
project roles of the query. A query that names offerings narrows both lists to the
organizations and projects holding a resource of those offerings, or of offerings under
them, that is not terminated. This module shows that such a query reaches no one else.
The roles, divisions, users and permissions of `waldur_core.structure` are outside the
source and form the directory the function reads; the parent of an offering is its
`parent` column.
-/

import Waldur.Marketplace.Store

namespace Waldur

/-- What `get_users_for_query` reads outside the marketplace tables: the roles
`CustomerRole.SUPPORT` and `CustomerRole.OWNER`, the division type of an organization, its
support users, its owners and the users with an active permission in it, and the users of
a project in a role (`none` for any role). -/
structure UserDirectory where
  supportRole : String
  ownerRole : String
  divisionType : Nat → Option String
  supportUsers : Nat → List Nat
  owners : Nat → List Nat
  permittedUsers : Nat → List Nat
  projectUsers : Nat → Option String → List Nat

/-- The keys of the query dictionary; a missing key reads as an empty list. -/
structure UsersQuery where
  customerDivisionTypes : List String := []
  customers : List Customer := []
  customerRoles : List String := []
  projects : List Project := []
  projectRoles : List String := []
  offerings : List Offering := []

variable (d : UserDirectory)

/-- `get_customer_users(customer, roles)`. -/
def getCustomerUsers (customer : Customer) (roles : List String) : List Nat :=
  if roles.contains d.supportRole then d.supportUsers customer.id
  else if roles.contains d.ownerRole then d.owners customer.id
  else d.permittedUsers customer.id

/-- `get_project_users(project, roles)`. -/
def getProjectUsers (project : Project) (roles : List String) : List Nat :=
  if roles.isEmpty then d.projectUsers project.id none
  else roles.flatMap fun role => d.projectUsers project.id (some role)

/-- Whether a resource is of one of the offerings, or of an offering whose parent is one of
them (`Q(offering__in=offerings) | Q(offering__parent__in=offerings)`). -/
def servesOfferings (s : Store) (offerings : List Offering) (r : Resource) : Bool :=
  offerings.any (·.id == r.offering) ||
    ((s.offerings.get? r.offering).bind (·.parent)).any fun parent =>
      offerings.any (·.id == parent)

/-- `related_resources`: the resources of the offerings that are not terminated. -/
def relatedResources (s : Store) (offerings : List Offering) : List Resource :=
  s.resources.rows.filter fun r => servesOfferings s offerings r && r.state != .terminated

/-- `customer_ids`: the organizations of the projects of the related resources. -/
def relatedCustomerIds (s : Store) (offerings : List Offering) : List Nat :=
  (relatedResources s offerings).filterMap fun r =>
    (s.projects.get? r.project).map (·.customer)

/-- The organizations the query reaches. -/
def queryCustomers (s : Store) (q : UsersQuery) : List Customer :=
  let customers := if q.customerDivisionTypes.isEmpty then q.customers
    else q.customers ++ s.customers.rows.filter fun c =>
      (d.divisionType c.id).any q.customerDivisionTypes.contains
  if q.offerings.isEmpty then customers
  else
    let customerIds := relatedCustomerIds s q.offerings
    if customers.isEmpty then s.customers.rows.filter (customerIds.contains ·.id)
    else customers.filter (customerIds.contains ·.id)

/-- The projects the query reaches. -/
def queryProjects (s : Store) (q : UsersQuery) : List Project :=
  if q.offerings.isEmpty then q.projects
  else
    let projectIds := (relatedResources s q.offerings).map (·.project)
    if !q.projects.isEmpty then q.projects.filter (projectIds.contains ·.id)
    else if q.customerRoles.isEmpty then s.projects.rows.filter (projectIds.contains ·.id)
    else q.projects

/-- `get_users_for_query(query)`, as a list of user ids; the source collects them in a set. -/
def getUsersForQuery (s : Store) (q : UsersQuery) : List Nat :=
  (queryCustomers d s q).flatMap (getCustomerUsers d · q.customerRoles) ++
    (queryProjects s q).flatMap (getProjectUsers d · q.projectRoles)

/-- A resource the offerings narrow the query to. -/
def HoldsOfferings (s : Store) (offerings : List Offering) (r : Resource) : Prop :=
  r ∈ s.resources.rows ∧ servesOfferings s offerings r ∧ r.state ≠ .terminated

theorem mem_relatedResources {s : Store} {offerings : List Offering} {r : Resource} :
    r ∈ relatedResources s offerings ↔ HoldsOfferings s offerings r := by
  simp [relatedResources, HoldsOfferings]

/-- Under an offerings filter, every organization the query reaches holds a resource of the
offerings in one of its projects. -/
theorem queryCustomers_holds {s : Store} {q : UsersQuery} (hq : q.offerings ≠ [])
    {c : Customer} (hc : c ∈ queryCustomers d s q) :
    ∃ r, HoldsOfferings s q.offerings r ∧
      (s.projects.get? r.project).map (·.customer) = some c.id := by
  have hids : c.id ∈ relatedCustomerIds s q.offerings := by
    simp only [queryCustomers, List.isEmpty_iff, hq, if_false] at hc
    split at hc <;> split at hc <;> simpa using (List.mem_filter.mp hc).2
  obtain ⟨r, hr, hcr⟩ := List.mem_filterMap.mp hids
  exact ⟨r, mem_relatedResources.mp hr, hcr⟩

/-- Under an offerings filter, every project the query reaches holds a resource of the
offerings. -/
theorem queryProjects_holds {s : Store} {q : UsersQuery} (hq : q.offerings ≠ [])
    {p : Project} (hp : p ∈ queryProjects s q) :
    ∃ r, HoldsOfferings s q.offerings r ∧ r.project = p.id := by
  have hids : p.id ∈ (relatedResources s q.offerings).map (·.project) := by
    simp only [queryProjects, List.isEmpty_iff, hq, if_false] at hp
    split at hp
    · simpa using (List.mem_filter.mp hp).2
    · split at hp
      · simpa using (List.mem_filter.mp hp).2
      · next hne _ => simp_all
  obtain ⟨r, hr, hrp⟩ := List.mem_map.mp hids
  exact ⟨r, mem_relatedResources.mp hr, hrp⟩

/-- Who an offering-targeted broadcast may reach: a user, in the query's customer roles, of
an organization with a project that holds a resource of the offerings, or a user, in the
query's project roles, of a project that holds one. -/
def OfferingHolderUser (s : Store) (q : UsersQuery) (u : Nat) : Prop :=
  (∃ c : Customer, u ∈ getCustomerUsers d c q.customerRoles ∧ ∃ r,
    HoldsOfferings s q.offerings r ∧
      (s.projects.get? r.project).map (·.customer) = some c.id) ∨
  (∃ p : Project, u ∈ getProjectUsers d p q.projectRoles ∧ ∃ r,
    HoldsOfferings s q.offerings r ∧ r.project = p.id)

/-- A broadcast that names offerings reaches no one but users of the organizations and
projects that hold a resource of those offerings, or of offerings under them, that is not
terminated. -/
theorem offering_broadcast_reaches_only_holders (s : Store) (q : UsersQuery)
    (hq : q.offerings ≠ []) : ∀ u ∈ getUsersForQuery d s q, OfferingHolderUser d s q u := by
  intro u hu
  rcases List.mem_append.mp hu with hu | hu
  · obtain ⟨c, hc, huc⟩ := List.mem_flatMap.mp hu
    exact .inl ⟨c, huc, queryCustomers_holds d hq hc⟩
  · obtain ⟨p, hp, hup⟩ := List.mem_flatMap.mp hu
    exact .inr ⟨p, hup, queryProjects_holds hq hp⟩

/-- An organization whose one project holds a resource of a usage-billed cluster offering. -/
def holderStore : Store where
  customers := ⟨[⟨1, "Org", false⟩], by decide⟩
  projects := ⟨[⟨1, 1, "Lab", "lab", none⟩], by decide⟩
  offerings := ⟨[⟨1, "Cluster", "SLURM", true, true, some 1, none, none, 1, none, .active⟩],
    by decide⟩
  resources := ⟨[⟨1, 1, 1, .ok, none, none⟩], by decide⟩

/-- A directory in which user 7 has a permission in every organization and user 8 works in
every project. -/
def holderDirectory : UserDirectory where
  supportRole := "support"
  ownerRole := "owner"
  divisionType _ := none
  supportUsers _ := []
  owners _ := []
  permittedUsers _ := [7]
  projectUsers _ _ := [8]

/-- A broadcast to the holders of the cluster offering. -/
def clusterQuery : UsersQuery := { offerings := holderStore.offerings.rows }

theorem offering_broadcast_reaches_only_holders_of_cluster :
    clusterQuery.offerings ≠ [] ∧
    ∀ u ∈ getUsersForQuery holderDirectory holderStore clusterQuery,
      OfferingHolderUser holderDirectory holderStore clusterQuery u :=
  ⟨List.cons_ne_nil _ _, offering_broadcast_reaches_only_holders holderDirectory holderStore
    clusterQuery (List.cons_ne_nil _ _)⟩

end Waldur
