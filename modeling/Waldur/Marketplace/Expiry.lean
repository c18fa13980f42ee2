/-
# Expiry sweeps

Two daily tasks end what has expired. `terminate_resources_if_project_end_date_has_been_reached`
walks the projects whose end date has passed: a project with OK or Erred resources gets
terminate requests for them, any other project is deleted.
`terminate_resource_if_its_end_date_has_been_reached` asks for the termination of the
resources whose own end date has passed. Both send their requests through
`schedule_resources_termination`, which posts each one to the terminate view as the system
robot. The view and the requests' later effects are outside the source; a sweep is
modelled by the requests it issues and the projects it deletes, read from the database it
runs on. Run day after day, the project sweep deletes a project whose resource is still
being created, and once that resource is up neither sweep ever reaches it again.
-/

import Waldur.Marketplace.Store

namespace Waldur

/-- What a sweep does to one resource or project. -/
inductive SweepAction
  | requestTermination (resource : Nat)
  | deleteProject (project : Nat)
  deriving DecidableEq, Repr

/-- Whether an optional date is set and not after `today` (`end_date__lte=today`, which
no row with a null date passes). -/
def dateReached (date : Option Date) (today : Date) : Bool :=
  match date with
  | some d => decide (d ≤ today)
  | none => false

/-- `Resource.is_expired`. -/
def Resource.isExpired (r : Resource) (today : Date) : Bool := dateReached r.endDate today

/-- `schedule_resources_termination(resources)`: one terminate request per resource,
posted as the system robot; none when there is nothing to terminate or no robot. -/
def scheduleResourcesTermination (robot : Option Nat) (resources : List Resource) :
    List SweepAction :=
  if resources.isEmpty then []
  else match robot with
    | none => []
    | some _ => resources.map (.requestTermination ·.id)

/-- `Project.objects.exclude(end_date__isnull=True).filter(end_date__lte=today)`. -/
def expiredProjects (s : Store) (today : Date) : List Project :=
  s.projects.rows.filter fun p => dateReached p.endDate today

/-- The resources of a project in OK or Erred. -/
def terminableResources (s : Store) (project : Nat) : List Resource :=
  s.resources.rows.filter fun r => r.project == project && (r.state == .ok || r.state == .erred)

/-- `terminate_resources_if_project_end_date_has_been_reached`. The resources each step
reads are changed neither by the deletion of another project nor by the requests, which
the terminate view carries out, so every step reads them from the database the run
starts on. -/
def terminateResourcesIfProjectEndDateHasBeenReached (s : Store) (today : Date)
    (robot : Option Nat) : List SweepAction :=
  (expiredProjects s today).flatMap fun project =>
    let resources := terminableResources s project.id
    if resources.isEmpty then [.deleteProject project.id]
    else scheduleResourcesTermination robot resources

theorem deleteProject_not_mem_schedule (robot : Option Nat) (resources : List Resource)
    (project : Nat) :
    SweepAction.deleteProject project ∉ scheduleResourcesTermination robot resources := by
  unfold scheduleResourcesTermination
  split
  · simp
  · split <;> simp

theorem exists_of_requestTermination_mem_schedule {robot : Option Nat}
    {resources : List Resource} {resource : Nat}
    (h : SweepAction.requestTermination resource ∈ scheduleResourcesTermination robot resources) :
    ∃ r ∈ resources, r.id = resource := by
  unfold scheduleResourcesTermination at h
  split at h
  · simp at h
  · split at h
    · simp at h
    · obtain ⟨r, hr, heq⟩ := List.mem_map.mp h
      exact ⟨r, hr, SweepAction.requestTermination.inj heq⟩

/-- A run deletes exactly the expired projects that have no resource in OK or Erred:
projects whose resources are all Creating, Updating, Terminating or Terminated are
deleted too. -/
theorem project_deleted_iff_no_ok_or_erred_resource (s : Store) (today : Date)
    (robot : Option Nat) (project : Nat) :
    SweepAction.deleteProject project ∈
        terminateResourcesIfProjectEndDateHasBeenReached s today robot ↔
      (∃ p ∈ s.projects.rows, p.id = project ∧ dateReached p.endDate today) ∧
        ∀ r ∈ s.resources.rows, r.project = project → r.state ≠ .ok ∧ r.state ≠ .erred := by
  simp only [terminateResourcesIfProjectEndDateHasBeenReached, List.mem_flatMap]
  constructor
  · rintro ⟨p, hp, hmem⟩
    split at hmem
    · rename_i hempty
      obtain rfl := SweepAction.deleteProject.inj (List.mem_singleton.mp hmem)
      refine ⟨⟨p, (List.mem_filter.mp hp).1, rfl, (List.mem_filter.mp hp).2⟩, fun r hr hproj => ?_⟩
      have hnot := List.filter_eq_nil_iff.mp (List.isEmpty_iff.mp hempty) r hr
      simp_all
    · exact absurd hmem (deleteProject_not_mem_schedule _ _ _)
  · rintro ⟨⟨p, hp, rfl, hdate⟩, hstates⟩
    refine ⟨p, List.mem_filter.mpr ⟨hp, hdate⟩, ?_⟩
    have hempty : (terminableResources s p.id).isEmpty := by
      refine List.isEmpty_iff.mpr (List.filter_eq_nil_iff.mpr fun r hr => ?_)
      by_cases hproj : r.project = p.id
      · have := hstates r hr hproj
        simp_all
      · simp [hproj]
    simp [hempty]

/-- The resources `terminate_resource_if_its_end_date_has_been_reached` selects:
`exclude(end_date__isnull=True, state__in=(TERMINATED, TERMINATING))` drops a row only
when both conditions hold, then `filter(end_date__lte=today)` keeps dates not after today. -/
def expiredResources (s : Store) (today : Date) : List Resource :=
  (s.resources.rows.filter fun r =>
      !(r.endDate.isNone && (r.state == .terminated || r.state == .terminating))).filter
    fun r => dateReached r.endDate today

/-- `terminate_resource_if_its_end_date_has_been_reached`. -/
def terminateResourceIfItsEndDateHasBeenReached (s : Store) (today : Date)
    (robot : Option Nat) : List SweepAction :=
  scheduleResourcesTermination robot (expiredResources s today)

/-- The sweep selects every expired resource, whatever its state. -/
theorem expiredResources_eq_filter_isExpired (s : Store) (today : Date) :
    expiredResources s today = s.resources.rows.filter (·.isExpired today) := by
  rw [expiredResources, List.filter_filter]
  refine List.filter_congr fun r _ => ?_
  cases h : r.endDate <;> simp [Resource.isExpired, dateReached, h]

/-- A resource that was terminated and whose end date has passed. -/
def terminatedExpiredStore : Store where
  customers := ⟨[⟨1, "Customer", false⟩], by decide⟩
  projects := ⟨[⟨1, 1, "Project", "p1", none⟩], by decide⟩
  resources := ⟨[⟨1, 1, 1, .terminated, none, some ⟨2020, 1, 1⟩⟩], by decide⟩

/-- The sweep asks again for the termination of that Terminated resource. -/
theorem terminated_resource_scheduled_again :
    terminateResourceIfItsEndDateHasBeenReached terminatedExpiredStore ⟨2020, 1, 2⟩ (some 1) =
      [.requestTermination 1] := by decide

/-! ## Daily runs

Each day both sweeps run on the database as it is. The deletions the project sweep makes
are applied before the next day; the terminate requests go to the terminate view, whose
effect is outside the source, so a resource nothing else touches keeps its row. -/

/-- `project.delete()` for every project a run deleted: the row leaves `Project.objects`. -/
def deleteProjects (s : Store) (actions : List SweepAction) : Store :=
  { s with
    projects := s.projects.deleteWhere fun p => decide (SweepAction.deleteProject p.id ∈ actions) }

/-- Both sweeps on each of `days`, the project deletions of each day applied before the
next; the actions of all the runs. -/
def dailySweeps (robot : Option Nat) : Store → List Date → List SweepAction
  | _, [] => []
  | s, today :: days =>
      let actions := terminateResourcesIfProjectEndDateHasBeenReached s today robot ++
        terminateResourceIfItsEndDateHasBeenReached s today robot
      actions ++ dailySweeps robot (deleteProjects s actions) days

/-- A resource left without an end date in a project that is gone: the project sweep
never reads it again, and the resource sweep skips it. -/
structure Orphaned (s : Store) (r : Resource) : Prop where
  mem : r ∈ s.resources.rows
  endDate : r.endDate = none
  projectGone : ∀ p ∈ s.projects.rows, p.id ≠ r.project

/-- Neither sweep asks for the termination of an orphaned resource. -/
theorem requestTermination_not_mem_of_orphaned {s : Store} {r : Resource} (h : Orphaned s r)
    (today : Date) (robot : Option Nat) :
    SweepAction.requestTermination r.id ∉
      terminateResourcesIfProjectEndDateHasBeenReached s today robot ++
        terminateResourceIfItsEndDateHasBeenReached s today robot := by
  rw [List.mem_append, not_or]
  constructor
  · simp only [terminateResourcesIfProjectEndDateHasBeenReached, List.mem_flatMap, not_exists,
      not_and]
    intro p hp hmem
    split at hmem
    · simp at hmem
    · obtain ⟨r', hr', hid⟩ := exists_of_requestTermination_mem_schedule hmem
      obtain ⟨hr'mem, hr'p⟩ := List.mem_filter.mp hr'
      obtain rfl := Table.eq_of_mem_of_pk_eq hr'mem h.mem hid
      simp only [Bool.and_eq_true, beq_iff_eq] at hr'p
      exact h.projectGone p (List.mem_filter.mp hp).1 hr'p.1.symm
  · intro hmem
    obtain ⟨r', hr', hid⟩ := exists_of_requestTermination_mem_schedule hmem
    rw [expiredResources_eq_filter_isExpired] at hr'
    obtain ⟨hr'mem, hexpired⟩ := List.mem_filter.mp hr'
    obtain rfl := Table.eq_of_mem_of_pk_eq hr'mem h.mem hid
    simp [Resource.isExpired, dateReached, h.endDate] at hexpired

/-- Deleting projects keeps a resource orphaned. -/
theorem Orphaned.deleteProjects {s : Store} {r : Resource} (h : Orphaned s r)
    (actions : List SweepAction) : Orphaned (Waldur.deleteProjects s actions) r :=
  ⟨h.mem, h.endDate, fun p hp => h.projectGone p (List.mem_filter.mp hp).1⟩

/-- No run of the daily sweeps, on any days, asks for the termination of an orphaned
resource. -/
theorem requestTermination_not_mem_dailySweeps {s : Store} {r : Resource} (h : Orphaned s r)
    (robot : Option Nat) (days : List Date) :
    SweepAction.requestTermination r.id ∉ dailySweeps robot s days := by
  induction days generalizing s with
  | nil => simp [dailySweeps]
  | cons today days ih =>
      simp only [dailySweeps]
      exact fun hmem => (List.mem_append.mp hmem).elim
        (requestTermination_not_mem_of_orphaned h today robot) (ih (h.deleteProjects _))

/-- An expired project whose one resource is still being created and has no end date. -/
def creatingResourceStore : Store where
  customers := ⟨[⟨1, "Customer", false⟩], by decide⟩
  projects := ⟨[⟨1, 1, "Project", "p1", some ⟨2020, 1, 1⟩⟩], by decide⟩
  resources := ⟨[⟨1, 1, 1, .creating, none, none⟩], by decide⟩

/-- The database after both sweeps ran the day after the project expired, with their
deletions applied, and after the backend then finished the resource (`set_state_ok`). -/
def createdAfterDeletionStore : Store :=
  let s := deleteProjects creatingResourceStore
    (terminateResourcesIfProjectEndDateHasBeenReached creatingResourceStore ⟨2020, 1, 2⟩ (some 1) ++
      terminateResourceIfItsEndDateHasBeenReached creatingResourceStore ⟨2020, 1, 2⟩ (some 1))
  { s with resources := s.resources.update 1 (fun r => { r with state := .ok }) fun _ => rfl }

/-- The project sweep deletes the expired project while its resource is Creating, with or
without a robot; once the resource is OK, no daily run of either sweep, on any later days,
ever asks for its termination. -/
theorem creating_resource_outlives_deleted_project :
    (∀ robot, SweepAction.deleteProject 1 ∈
      terminateResourcesIfProjectEndDateHasBeenReached creatingResourceStore ⟨2020, 1, 2⟩ robot) ∧
    createdAfterDeletionStore.resources.get? 1 = some ⟨1, 1, 1, .ok, none, none⟩ ∧
    ∀ robot days, SweepAction.requestTermination 1 ∉
      dailySweeps robot createdAfterDeletionStore days := by
  refine ⟨fun robot => (project_deleted_iff_no_ok_or_erred_resource _ _ robot 1).mpr
    ⟨⟨_, List.mem_singleton_self _, rfl, rfl⟩, by decide⟩, rfl, fun robot days => ?_⟩
  have horphan : Orphaned createdAfterDeletionStore ⟨1, 1, 1, .ok, none, none⟩ :=
    ⟨List.mem_singleton_self _, rfl, by decide⟩
  exact requestTermination_not_mem_dailySweeps horphan robot days

end Waldur
