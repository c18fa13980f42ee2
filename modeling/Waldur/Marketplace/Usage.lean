/-
# Monthly usage roll-up

`calculate_usage_for_scope` totals, for one customer or project, the usage reported in a
month and the fixed plan amounts active in it, per category component, and stores each
total with `CategoryComponentUsage.objects.update_or_create`. That call is modelled as its
two round trips to the database, the `select_for_update().get()` lookup and the insert or
save that follows, so that concurrent roll-ups can interleave them; run back to back, as
here, they keep one row per lookup key.
-/

import Mathlib
import Waldur.Marketplace.Store

namespace Waldur

/-- The columns `update_or_create` looks a category usage up by: the scope's content type
and id, the category component and the month's first day. -/
structure UsageKey where
  scope : ScopeRef
  component : Nat
  date : Date
  deriving DecidableEq, Repr

/-- The lookup key of a stored row. -/
def CategoryComponentUsage.key (r : CategoryComponentUsage) : UsageKey :=
  ⟨r.scope, r.component, r.date⟩

/-- The content type of `structure.Project`. -/
def projectContentType : String := "structure.project"

/-- The content type of `structure.Customer`. -/
def customerContentType : String := "structure.customer"

/-- `filter_aggregate_by_scope`: whether a row of `resource` is kept for `scope`. A project
keeps its own resources, a customer those of its projects, and any other scope keeps all. -/
def filterAggregateByScope (s : Store) (scope : ScopeRef) (resource : Nat) : Bool :=
  if scope.contentType = projectContentType then
    (s.resources.get? resource).any (·.project == scope.objectId)
  else if scope.contentType = customerContentType then
    (s.resources.get? resource).any fun r =>
      (s.projects.get? r.project).any (·.customer == scope.objectId)
  else true

/-- `values(key).annotate(total=Sum(value))` read into a dictionary: one entry per key,
holding the sum of the values of its rows. -/
def groupSum {κ : Type} [DecidableEq κ] (rows : List (κ × Int)) : List (κ × Int) :=
  (rows.map Prod.fst).dedup.map fun k => (k, ((rows.filter (·.1 = k)).map Prod.snd).sum)

/-- `aggregate_reported_usage`: the usage reported between `start` and `stop`, summed per
parent category component; usage of components without a parent is excluded. -/
def aggregateReportedUsage (s : Store) (start stop : DateTime) (scope : ScopeRef) :
    List (Nat × Int) :=
  groupSum <| (s.componentUsages.rows.filter fun u =>
      start ≤ u.date && u.date ≤ stop && filterAggregateByScope s scope u.resource).filterMap
    fun u => ((s.offeringComponents.get? u.component).bind (·.parent)).map (·, u.usage)

/-- The `Q(...) | Q(...) | Q(...)` filter of `aggregate_fixed_usage`: the period lies in the
month, is still open, or ended in it. A comparison with a null column is false, as in SQL. -/
def ResourcePlanPeriod.activeIn (p : ResourcePlanPeriod) (start stop : DateTime) : Bool :=
  (p.start.any (start ≤ ·) && p.stop.any (· ≤ stop)) || p.stop.isNone ||
    p.stop.any fun e => start ≤ e && e ≤ stop

/-- The `plan__components__component__parent_id` and `plan__components__amount` columns of
a period's rows: one per component of its plan. -/
def planComponentRows (s : Store) (plan : Nat) : List (Option Nat × Int) :=
  (s.planComponents.rows.filter (·.plan == plan)).map fun pc =>
    ((pc.component.bind s.offeringComponents.get?).bind (·.parent), (pc.amount : Int))

/-- `aggregate_fixed_usage`: the plan amounts of the periods active in the month, summed per
parent category component; `None` collects the components without a parent. -/
def aggregateFixedUsage (s : Store) (start stop : DateTime) (scope : ScopeRef) :
    List (Option Nat × Int) :=
  groupSum <| (s.resourcePlanPeriods.rows.filter fun p =>
      p.activeIn start stop && filterAggregateByScope s scope p.resource).flatMap fun p =>
    planComponentRows s p.plan

/-- The spec's reading of the filter: the period overlaps the window, that is it starts no
later than the window ends (or has no start) and ends no earlier than the window starts (or is
still open). -/
def ResourcePlanPeriod.overlaps (p : ResourcePlanPeriod) (start stop : DateTime) : Bool :=
  p.start.all (· ≤ stop) && p.stop.all (start ≤ ·)

/-- The aggregate the spec describes: the plan amounts of every period overlapping the window,
summed per parent category component. -/
def overlappingFixedUsage (s : Store) (start stop : DateTime) (scope : ScopeRef) :
    List (Option Nat × Int) :=
  groupSum <| (s.resourcePlanPeriods.rows.filter fun p =>
      p.overlaps start stop && filterAggregateByScope s scope p.resource).flatMap fun p =>
    planComponentRows s p.plan

/-- For a period that has started and ended by the window's end, and does not end before it
starts, the three `Q` clauses select it exactly when it overlaps the window. -/
theorem activeIn_eq_overlaps {p : ResourcePlanPeriod} {start stop : DateTime}
    (hstart : ∀ a ∈ p.start, a ≤ stop) (hstop : ∀ b ∈ p.stop, b ≤ stop)
    (hordered : ∀ a ∈ p.start, ∀ b ∈ p.stop, a ≤ b) :
    p.activeIn start stop = p.overlaps start stop := by
  unfold ResourcePlanPeriod.activeIn ResourcePlanPeriod.overlaps
  cases ha : p.start with
  | none =>
      cases hb : p.stop with
      | none => rfl
      | some b => simp [hstop b hb]
  | some a =>
      cases hb : p.stop with
      | none => simp [hstart a ha]
      | some b =>
          have hab := hordered a ha b hb
          by_cases hsb : start ≤ b
          · simp [hstart a ha, hstop b hb, hsb]
          · have hsa : ¬ start ≤ a := fun h => hsb (DateTime.le_trans h hab)
            simp [hsa, hsb]

/-- When no period of the database starts or ends after the window's end, and none ends
before it starts, `aggregate_fixed_usage` is the aggregate over the periods that overlap the
window. This is the case of `calculate_usage_for_current_month`: its window ends with the
current month, and the bounds of the stored periods are past times. -/
theorem aggregateFixedUsage_eq_overlapping (s : Store) (start stop : DateTime)
    (scope : ScopeRef)
    (hsettled : ∀ p ∈ s.resourcePlanPeriods.rows, (∀ a ∈ p.start, a ≤ stop) ∧
      (∀ b ∈ p.stop, b ≤ stop) ∧ ∀ a ∈ p.start, ∀ b ∈ p.stop, a ≤ b) :
    aggregateFixedUsage s start stop scope = overlappingFixedUsage s start stop scope := by
  unfold aggregateFixedUsage overlappingFixedUsage
  rw [List.filter_congr fun p hp => by
    rw [activeIn_eq_overlaps (hsettled p hp).1 (hsettled p hp).2.1 (hsettled p hp).2.2]]

/-- Project 1 has two resources. Resource 1 was on plan 1 (3 units of a component under category
component 7) from 15 December 2023 to 10 February 2024; resource 2 is on plan 2 (5 units under
category component 8) from 1 March 2024. -/
def planPeriodStore : Store where
  projects := ⟨[⟨1, 1, "Project", "p1", none⟩], by decide⟩
  resources := ⟨[⟨1, 1, 1, .ok, none, none⟩, ⟨2, 1, 1, .ok, none, none⟩], by decide⟩
  offeringComponents := ⟨[⟨1, 1, some 7, "ram", .fixed, none, none, none, none⟩,
    ⟨2, 1, some 8, "cores", .fixed, none, none, none, none⟩], by decide⟩
  plans := ⟨[⟨1, 1, 0⟩, ⟨2, 1, 0⟩], by decide⟩
  planComponents := ⟨[⟨1, 1, some 1, 3, 0⟩, ⟨2, 2, some 2, 5, 0⟩], by decide⟩
  resourcePlanPeriods := ⟨[⟨1, 1, 1, some ⟨⟨2023, 12, 15⟩, 0⟩, some ⟨⟨2024, 2, 10⟩, 0⟩⟩,
    ⟨2, 2, 2, some ⟨⟨2024, 3, 1⟩, 0⟩, none⟩], by decide⟩

/-- The end of March 2024. -/
def marchEnd : DateTime := ⟨⟨2024, 3, 31⟩, DateTime.endOfDay⟩

theorem aggregateFixedUsage_eq_overlapping_in_march :
    (∀ p ∈ planPeriodStore.resourcePlanPeriods.rows, (∀ a ∈ p.start, a ≤ marchEnd) ∧
      (∀ b ∈ p.stop, b ≤ marchEnd) ∧ ∀ a ∈ p.start, ∀ b ∈ p.stop, a ≤ b) ∧
    aggregateFixedUsage planPeriodStore ⟨⟨2024, 3, 1⟩, 0⟩ marchEnd ⟨projectContentType, 1⟩ =
      overlappingFixedUsage planPeriodStore ⟨⟨2024, 3, 1⟩, 0⟩ marchEnd ⟨projectContentType, 1⟩ :=
  have hsettled : ∀ p ∈ planPeriodStore.resourcePlanPeriods.rows,
      (∀ a ∈ p.start, a ≤ marchEnd) ∧ (∀ b ∈ p.stop, b ≤ marchEnd) ∧
        ∀ a ∈ p.start, ∀ b ∈ p.stop, a ≤ b := by decide
  ⟨hsettled, aggregateFixedUsage_eq_overlapping planPeriodStore _ marchEnd _ hsettled⟩

/-- For January 2024, the period that covers the whole month is left out and the one that
starts in March is counted. -/
theorem fixed_usage_misses_spanning_period :
    aggregateFixedUsage planPeriodStore ⟨⟨2024, 1, 1⟩, 0⟩ ⟨⟨2024, 1, 31⟩, DateTime.endOfDay⟩
        ⟨projectContentType, 1⟩ = [(some 8, 5)] ∧
    overlappingFixedUsage planPeriodStore ⟨⟨2024, 1, 1⟩, 0⟩ ⟨⟨2024, 1, 31⟩, DateTime.endOfDay⟩
        ⟨projectContentType, 1⟩ = [(some 7, 3)] := by
  decide

/-- One `update_or_create` call of the roll-up: its lookup key and its two defaults. -/
structure Upsert where
  key : UsageKey
  reportedUsage : Option Int
  fixedUsage : Option Int
  deriving DecidableEq, Repr

/-- The calls `calculate_usage_for_scope` makes: after `fixed_usage.pop(None, None)`, one per
component of either aggregate, with `reported_usage.get(c)` and `fixed_usage.get(c)` as
defaults. The loop runs over a Python set; nothing below depends on its order. -/
def usagePlan (s : Store) (start stop : DateTime) (scope : ScopeRef) : List Upsert :=
  let reported := aggregateReportedUsage s start stop scope
  let fixed := (aggregateFixedUsage s start stop scope).filterMap fun (k, total) =>
    k.map (·, total)
  (reported.map Prod.fst ++ fixed.map Prod.fst).dedup.map fun component =>
    ⟨⟨scope, component, start.date⟩, reported.lookup component, fixed.lookup component⟩

/-- The first half of `update_or_create`: `select_for_update().get(**kwargs)`, which finds
no row or one row, or raises `MultipleObjectsReturned`. -/
def lookupUsage (t : Table CategoryComponentUsage) (key : UsageKey) :
    Except Error (Option CategoryComponentUsage) :=
  match t.rows.filter (·.key = key) with
  | [] => .ok none
  | [r] => .ok (some r)
  | _ => .error (.multipleObjectsReturned "CategoryComponentUsage")

/-- The row `create(**kwargs, **defaults)` inserts under `id`. -/
def Upsert.row (u : Upsert) (id : Nat) : CategoryComponentUsage :=
  ⟨id, u.key.scope, u.key.component, u.key.date, u.reportedUsage, u.fixedUsage⟩

/-- A found row with the defaults set on it. -/
def Upsert.apply (u : Upsert) (r : CategoryComponentUsage) : CategoryComponentUsage :=
  { r with reportedUsage := u.reportedUsage, fixedUsage := u.fixedUsage }

/-- The second half of `update_or_create`: create the row when the lookup found none,
otherwise set the defaults on the row it found and `save()` it. -/
def writeUsage (t : Table CategoryComponentUsage) (u : Upsert) :
    Option CategoryComponentUsage → Table CategoryComponentUsage
  | none => t.insert (u.row t.nextKey) t.nextKey_not_mem
  | some r => t.put (u.apply r)

/-- `CategoryComponentUsage.objects.update_or_create`, both halves in one transaction. -/
def updateOrCreate (u : Upsert) : EStateM Error Store Unit := do
  let s ← get
  let found ← ofExcept (lookupUsage s.categoryComponentUsages u.key)
  set { s with categoryComponentUsages := writeUsage s.categoryComponentUsages u found }

/-- `calculate_usage_for_scope(start, end, scope)`. -/
def calculateUsageForScope (start stop : DateTime) (scope : ScopeRef) :
    EStateM Error Store Unit := do
  let s ← get
  (usagePlan s start stop scope).forM updateOrCreate

/-- The scopes `calculate_usage_for_current_month` visits: every customer, each followed
by its projects. -/
def usageScopes (s : Store) : List ScopeRef :=
  s.customers.rows.flatMap fun c => ⟨customerContentType, c.id⟩ ::
    (s.projects.rows.filter (·.customer == c.id)).map fun p => ⟨projectContentType, p.id⟩

/-- `calculate_usage_for_current_month`, for the month from `start` to `stop` (the source's
`get_current_month_start` and `get_current_month_end`). -/
def calculateUsageForCurrentMonth (start stop : DateTime) : EStateM Error Store Unit := do
  let s ← get
  (usageScopes s).forM (calculateUsageForScope start stop)

/-! ## One row per key -/

/-- The rows a lookup by `key` matches. -/
def usagesWith (t : Table CategoryComponentUsage) (key : UsageKey) :
    List CategoryComponentUsage :=
  t.rows.filter (·.key = key)

/-- At most one row per lookup key. -/
def UniqueUsages (t : Table CategoryComponentUsage) : Prop :=
  (t.rows.map CategoryComponentUsage.key).Nodup

/-- The lookup of `u.key` finds exactly one row, and it carries `u`'s defaults. -/
def Carries (t : Table CategoryComponentUsage) (u : Upsert) : Prop :=
  ∃ r, usagesWith t u.key = [r] ∧ r.reportedUsage = u.reportedUsage ∧
    r.fixedUsage = u.fixedUsage

@[simp] theorem key_row (u : Upsert) (id : Nat) : (u.row id).key = u.key := rfl

@[simp] theorem key_apply (u : Upsert) (r : CategoryComponentUsage) :
    (u.apply r).key = r.key := rfl

theorem lookupUsage_eq_ok_iff {t : Table CategoryComponentUsage} {key : UsageKey}
    {found : Option CategoryComponentUsage} :
    lookupUsage t key = .ok found ↔ usagesWith t key = found.toList := by
  unfold lookupUsage usagesWith
  split
  · rename_i hnil
    cases found <;> simp [hnil]
  · rename_i r hone
    cases found <;> simp [hone]
  · rename_i hnil hone
    cases found with
    | none => exact iff_of_false (by simp) hnil
    | some r => exact iff_of_false (by simp) (hone r)

/-- Under unique keys a lookup finds the matching rows' head, and there is no other. -/
theorem usagesWith_of_unique {t : Table CategoryComponentUsage} (h : UniqueUsages t)
    (key : UsageKey) : usagesWith t key = (usagesWith t key).head?.toList := by
  have hnodup : ((usagesWith t key).map CategoryComponentUsage.key).Nodup :=
    List.Nodup.sublist ((List.filter_sublist _).map _) h
  match hrows : usagesWith t key with
  | [] => rfl
  | [_] => rfl
  | r₁ :: r₂ :: _ =>
      have hmem : ∀ r ∈ usagesWith t key, r.key = key := fun r hr => by
        simpa [usagesWith] using (List.mem_filter.mp hr).2
      rw [hrows] at hnodup hmem
      simp [hmem r₁ (.head _), hmem r₂ (.tail _ (.head _))] at hnodup

theorem lookupUsage_of_unique {t : Table CategoryComponentUsage} (h : UniqueUsages t)
    (key : UsageKey) : lookupUsage t key = .ok (usagesWith t key).head? :=
  lookupUsage_eq_ok_iff.mpr (usagesWith_of_unique h key)

theorem key_of_mem_usagesWith {t : Table CategoryComponentUsage} {key : UsageKey}
    {r : CategoryComponentUsage} (h : r ∈ usagesWith t key) : r.key = key := by
  simpa using (List.mem_filter.mp h).2

/-- Saving the defaults on a stored row replaces it where it stands. -/
theorem rows_put_apply {t : Table CategoryComponentUsage} {r : CategoryComponentUsage}
    (hr : r ∈ t.rows) (u : Upsert) :
    (t.put (u.apply r)).rows = t.rows.map fun r₀ => if r₀ = r then u.apply r else r₀ := by
  rw [Table.rows_put_of_mem (show Row.pk (u.apply r) ∈ t.keys from List.mem_map.mpr ⟨r, hr, rfl⟩)]
  refine List.map_congr_left fun r₀ hr₀ => if_congr ?_ rfl rfl
  exact ⟨List.inj_on_of_nodup_map t.keys_nodup hr₀ hr, congrArg CategoryComponentUsage.id⟩

theorem usagesWith_put_apply {t : Table CategoryComponentUsage} {r : CategoryComponentUsage}
    (hr : r ∈ t.rows) (u : Upsert) (key : UsageKey) :
    usagesWith (t.put (u.apply r)) key =
      (usagesWith t key).map fun r₀ => if r₀ = r then u.apply r else r₀ := by
  rw [usagesWith, rows_put_apply hr, List.filter_map]
  congr 1
  refine List.filter_congr fun r₀ _ => ?_
  by_cases h : r₀ = r <;> simp [h]

theorem usagesWith_insert_row (t : Table CategoryComponentUsage) (u : Upsert) (key : UsageKey) :
    usagesWith (writeUsage t u none) key =
      usagesWith t key ++ if u.key = key then [u.row t.nextKey] else [] := by
  by_cases h : u.key = key <;> simp [writeUsage, usagesWith, h]

/-- The write half, when the rows its lookup found are still the table's: the row for
`u.key` is then unique and carries the defaults, and no other key's rows change. -/
theorem writeUsage_spec {t : Table CategoryComponentUsage} {u : Upsert}
    {found : Option CategoryComponentUsage} (hfound : usagesWith t u.key = found.toList) :
    Carries (writeUsage t u found) u ∧
      ∀ key ≠ u.key, usagesWith (writeUsage t u found) key = usagesWith t key := by
  cases found with
  | none =>
      refine ⟨⟨u.row t.nextKey, ?_, rfl, rfl⟩, fun key hkey => ?_⟩
      · simpa [hfound] using usagesWith_insert_row t u u.key
      · simpa [Ne.symm hkey] using usagesWith_insert_row t u key
  | some r =>
      have hr : r ∈ usagesWith t u.key := by simp [hfound]
      have hwrite := usagesWith_put_apply (List.mem_filter.mp hr).1 u
      refine ⟨⟨u.apply r, by simp [writeUsage, hwrite, hfound], rfl, rfl⟩, fun key hkey => ?_⟩
      rw [writeUsage, hwrite]
      conv_rhs => rw [← List.map_id (usagesWith t key)]
      refine List.map_congr_left fun r₀ hr₀ => if_neg ?_
      rintro rfl
      exact hkey ((key_of_mem_usagesWith hr₀).symm.trans (key_of_mem_usagesWith hr))

theorem unique_writeUsage {t : Table CategoryComponentUsage} {u : Upsert}
    {found : Option CategoryComponentUsage} (h : UniqueUsages t)
    (hfound : usagesWith t u.key = found.toList) : UniqueUsages (writeUsage t u found) := by
  cases found with
  | none =>
      have hfresh : u.key ∉ t.rows.map CategoryComponentUsage.key := by
        simpa [usagesWith, List.filter_eq_nil_iff] using hfound
      simpa [UniqueUsages, writeUsage, List.nodup_append, hfresh] using h
  | some r =>
      have hr : r ∈ t.rows := (List.mem_filter.mp (by simp [hfound] : r ∈ usagesWith t u.key)).1
      have hkeys : (t.rows.map fun r₀ => if r₀ = r then u.apply r else r₀).map
          CategoryComponentUsage.key = t.rows.map CategoryComponentUsage.key := by
        rw [List.map_map]
        refine List.map_congr_left fun r₀ _ => ?_
        by_cases h : r₀ = r <;> simp [h]
      rwa [UniqueUsages, writeUsage, rows_put_apply hr, hkeys]

theorem updateOrCreate_of_unique {s : Store} (h : UniqueUsages s.categoryComponentUsages)
    (u : Upsert) : updateOrCreate u s = .ok ()
      { s with
        categoryComponentUsages := writeUsage s.categoryComponentUsages u
          (usagesWith s.categoryComponentUsages u.key).head? } := by
  simp only [updateOrCreate, bind_apply, get_apply, lookupUsage_of_unique h, ofExcept_ok_apply]
  rfl

/-- One sequential `update_or_create` on a table with unique keys keeps them unique, leaves
the row for `u.key` carrying the defaults, and changes no other key's rows. -/
theorem updateOrCreate_spec {s : Store} (h : UniqueUsages s.categoryComponentUsages)
    (u : Upsert) : ∃ t, updateOrCreate u s = .ok () { s with categoryComponentUsages := t } ∧
      UniqueUsages t ∧ Carries t u ∧
      ∀ key ≠ u.key, usagesWith t key = usagesWith s.categoryComponentUsages key :=
  have hfound := usagesWith_of_unique h u.key
  ⟨_, updateOrCreate_of_unique h u, unique_writeUsage h hfound, writeUsage_spec hfound⟩

/-- A loop of `update_or_create` calls on distinct keys, run back to back. -/
theorem forM_updateOrCreate {s : Store} (h : UniqueUsages s.categoryComponentUsages)
    (l : List Upsert) (hl : (l.map (·.key)).Nodup) :
    ∃ t, l.forM updateOrCreate s = .ok () { s with categoryComponentUsages := t } ∧
      UniqueUsages t ∧ (∀ u ∈ l, Carries t u) ∧
      ∀ key ∉ l.map (·.key), usagesWith t key = usagesWith s.categoryComponentUsages key := by
  induction l generalizing s with
  | nil => exact ⟨s.categoryComponentUsages, rfl, h, by simp, fun _ _ => rfl⟩
  | cons u rest ih =>
      obtain ⟨t₁, hrun₁, hunique₁, ⟨r, hr, hreported, hfixed⟩, hframe₁⟩ := updateOrCreate_spec h u
      rw [List.map_cons, List.nodup_cons] at hl
      obtain ⟨t₂, hrun₂, hunique₂, hcarries₂, hframe₂⟩ := ih
        (show UniqueUsages
          ({ s with categoryComponentUsages := t₁ } : Store).categoryComponentUsages
          from hunique₁) hl.2
      have hrun : (u :: rest).forM updateOrCreate s = _ := (bind_of_ok hrun₁).trans hrun₂
      refine ⟨t₂, hrun, hunique₂, ?_, ?_⟩
      · intro v hv
        rcases List.mem_cons.mp hv with rfl | hv
        · exact ⟨r, (hframe₂ v.key hl.1).trans hr, hreported, hfixed⟩
        · exact hcarries₂ v hv
      · intro key hkey
        rw [List.map_cons, List.mem_cons, not_or] at hkey
        rw [hframe₂ key hkey.2, hframe₁ key hkey.1]

theorem usagePlan_keys_nodup (s : Store) (start stop : DateTime) (scope : ScopeRef) :
    ((usagePlan s start stop scope).map (·.key)).Nodup := by
  simp only [usagePlan, List.map_map]
  exact (List.nodup_dedup _).map fun a b hab => by simpa using hab

/-- A roll-up run on its own, on a table with one row per key: keys stay unique, every call
of the run leaves its row carrying its defaults, and rows of keys it does not touch stay. -/
theorem calculateUsageForScope_spec {s : Store} (h : UniqueUsages s.categoryComponentUsages)
    (start stop : DateTime) (scope : ScopeRef) :
    ∃ t, calculateUsageForScope start stop scope s =
        .ok () { s with categoryComponentUsages := t } ∧
      UniqueUsages t ∧ (∀ u ∈ usagePlan s start stop scope, Carries t u) ∧
      ∀ key ∉ (usagePlan s start stop scope).map (·.key),
        usagesWith t key = usagesWith s.categoryComponentUsages key :=
  forM_updateOrCreate h _ (usagePlan_keys_nodup s start stop scope)

end Waldur
