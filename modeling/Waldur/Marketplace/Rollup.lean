/-
# Concurrent usage roll-ups

The monthly roll-up is a Celery task, and nothing keeps two runs for one scope apart: a
re-delivered or re-scheduled `calculate_usage_for_current_month` runs every scope again
while the first run is still going. Each run here is a worker that makes its
`update_or_create` calls one database round trip at a time, and the workers interleave
arbitrarily. `CategoryComponentUsage` declares no unique constraint (its sibling
`AggregateResourceCount` has `unique_together`), so two lookups that both found no row
both insert one. A run alone is `calculate_usage_for_scope`; runs of pairwise different
scopes never touch each other's keys, and interleave safely.
-/

import Waldur.Marketplace.Usage

namespace Waldur.Rollup

/-- Where a run stands in its current `update_or_create`. -/
inductive Phase
  | ready
  | found (row : Option CategoryComponentUsage)
  | failed (e : Error)
  deriving DecidableEq, Repr

/-- One run of `calculate_usage_for_scope`: its scope, the calls still to make, and the
phase of the first of them. -/
structure Worker where
  scope : ScopeRef
  pending : List Upsert
  phase : Phase
  deriving DecidableEq, Repr

/-- The database and the runs in flight. -/
structure Rollups where
  store : Store
  workers : List Worker

/-- The two round trips of an `update_or_create`. -/
inductive Move
  | lookup
  | write
  deriving DecidableEq, Repr

/-- The phase a lookup leaves a run in; `MultipleObjectsReturned` ends the run. -/
def lookupPhase (t : Table CategoryComponentUsage) (key : UsageKey) : Phase :=
  match lookupUsage t key with
  | .ok found => .found found
  | .error e => .failed e

/-- One round trip of a run, or `none` when the run is not at that point. -/
def advance (s : Store) (w : Worker) : Move → Option (Store × Worker)
  | .lookup =>
      match w.phase, w.pending with
      | .ready, u :: _ =>
          some (s, { w with phase := lookupPhase s.categoryComponentUsages u.key })
      | _, _ => none
  | .write =>
      match w.phase, w.pending with
      | .found found, u :: rest =>
          some ({ s with categoryComponentUsages := writeUsage s.categoryComponentUsages u found },
            { w with pending := rest, phase := .ready })
      | _, _ => none

/-- The scheduler lets run `i` make one round trip. -/
def step (d : Rollups) : Nat × Move → Rollups
  | (i, move) =>
      match d.workers[i]? with
      | some w =>
          match advance d.store w move with
          | some (s, w') => ⟨s, d.workers.set i w'⟩
          | none => d
      | none => d

/-- The runs after a schedule of round trips. -/
def run (d : Rollups) (schedule : List (Nat × Move)) : Rollups :=
  schedule.foldl step d

/-- Runs for `scopes` started on `s`. Each computes its calls from the usage and plan data,
which no run writes, so it does not matter when in the schedule a run computes them. -/
def initial (s : Store) (start stop : DateTime) (scopes : List ScopeRef) : Rollups :=
  ⟨s, scopes.map fun scope => ⟨scope, usagePlan s start stop scope, .ready⟩⟩

@[simp] theorem run_nil (d : Rollups) : run d [] = d := rfl

@[simp] theorem run_cons (d : Rollups) (m : Nat × Move) (schedule : List (Nat × Move)) :
    run d (m :: schedule) = run (step d m) schedule := rfl

/-! ## A run on its own is the sequential roll-up -/

/-- Run `i` making its next `n` calls back to back. -/
def serial (i : Nat) : Nat → List (Nat × Move)
  | 0 => []
  | n + 1 => (i, .lookup) :: (i, .write) :: serial i n

theorem updateOrCreate_eq_ok {u : Upsert} {s s' : Store} :
    updateOrCreate u s = .ok () s' ↔ ∃ found, lookupUsage s.categoryComponentUsages u.key =
      .ok found ∧ s' =
        { s with categoryComponentUsages := writeUsage s.categoryComponentUsages u found } := by
  simp only [updateOrCreate, bind_apply, get_apply]
  cases lookupUsage s.categoryComponentUsages u.key with
  | error e => simp [ofExcept_error_apply]
  | ok found =>
      simp only [ofExcept_ok_apply]
      exact ⟨fun h => ⟨found, rfl, (EStateM.Result.ok.inj h).2.symm⟩,
        fun ⟨_, hfound, hs'⟩ => by cases hfound; rw [hs']; rfl⟩

/-- Scheduled back to back, a run's round trips do what its `update_or_create` calls do
in sequence: the interleaving model refines the sequential code. -/
theorem run_serial {d : Rollups} {i : Nat} {w : Worker} (hw : d.workers[i]? = some w)
    (hready : w.phase = .ready) {s' : Store}
    (hseq : w.pending.forM updateOrCreate d.store = .ok () s') :
    run d (serial i w.pending.length) =
      ⟨s', d.workers.set i { w with pending := [], phase := .ready }⟩ := by
  obtain ⟨scope, pending, phase⟩ := w
  cases hready
  induction pending generalizing d s' with
  | nil =>
      obtain ⟨-, rfl⟩ := EStateM.Result.ok.inj hseq
      rw [List.length_nil, serial, run_nil, list_set_of_getElem? hw]
  | cons u rest ih =>
      have hseq : (updateOrCreate u >>= fun _ => rest.forM updateOrCreate) d.store = .ok () s' :=
        hseq
      obtain ⟨_, s₁, hu, hrest⟩ := bind_eq_ok.mp hseq
      obtain ⟨found, hlookup, rfl⟩ := updateOrCreate_eq_ok.mp hu
      have hi := (List.getElem?_eq_some_iff.mp hw).1
      have hlookup_step : step d (i, .lookup) =
          ⟨d.store, d.workers.set i ⟨scope, u :: rest, .found found⟩⟩ := by
        simp [step, hw, advance, lookupPhase, hlookup]
      have hwrite_step : step ⟨d.store, d.workers.set i ⟨scope, u :: rest, .found found⟩⟩
          (i, .write) =
            ⟨{ d.store with
               categoryComponentUsages := writeUsage d.store.categoryComponentUsages u found },
              d.workers.set i ⟨scope, rest, .ready⟩⟩ := by
        simp [step, List.getElem?_set_self hi, advance]
      rw [List.length_cons, serial, run_cons, run_cons, hlookup_step, hwrite_step,
        ih (List.getElem?_set_self hi) hrest, List.set_set]

/-- A roll-up run alone, from a table with one row per key: its round trips, back to back,
do what `calculate_usage_for_scope` does, and leave one row per key, each key of the run
with one row carrying the call's defaults, and the rows of every other key as they were. -/
theorem rollup_run_alone_is_calculate_usage_for_scope {s : Store}
    (hunique : UniqueUsages s.categoryComponentUsages) (start stop : DateTime)
    (scope : ScopeRef) :
    ∃ t, calculateUsageForScope start stop scope s =
        .ok () { s with categoryComponentUsages := t } ∧
      run (initial s start stop [scope]) (serial 0 (usagePlan s start stop scope).length) =
        ⟨{ s with categoryComponentUsages := t }, [⟨scope, [], .ready⟩]⟩ ∧
      UniqueUsages t ∧ (∀ u ∈ usagePlan s start stop scope, Carries t u) ∧
      ∀ key ∉ (usagePlan s start stop scope).map (·.key),
        usagesWith t key = usagesWith s.categoryComponentUsages key := by
  obtain ⟨t, hrun, hunique', hcarries, hframe⟩ :=
    calculateUsageForScope_spec hunique start stop scope
  have hw : (initial s start stop [scope]).workers[0]? =
      some ⟨scope, usagePlan s start stop scope, .ready⟩ := rfl
  exact ⟨t, hrun, run_serial hw rfl hrun, hunique', hcarries, hframe⟩

/-- Project 1 as a roll-up scope. -/
def projectOne : ScopeRef := ⟨projectContentType, 1⟩

/-- Resource 1 of project 1 reported 5 on 10 January 2024 for a component under category
component 7; no category usage is stored yet. -/
def usageReportStore : Store where
  customers := ⟨[⟨1, "Customer", false⟩], by decide⟩
  projects := ⟨[⟨1, 1, "Project", "p1", none⟩], by decide⟩
  resources := ⟨[⟨1, 1, 1, .ok, none, none⟩], by decide⟩
  offeringComponents := ⟨[⟨1, 1, some 7, "cpu", .usage, none, none, none, none⟩], by decide⟩
  componentUsages := ⟨[⟨1, 1, 1, 5, ⟨⟨2024, 1, 10⟩, 0⟩, none, ⟨2024, 1, 1⟩⟩], by decide⟩

/-- The bounds of January 2024. -/
def januaryStart : DateTime := ⟨⟨2024, 1, 1⟩, 0⟩

def januaryEnd : DateTime := ⟨⟨2024, 1, 31⟩, DateTime.endOfDay⟩

example : usagePlan usageReportStore januaryStart januaryEnd projectOne =
    [⟨⟨projectOne, 7, ⟨2024, 1, 1⟩⟩, some 5, none⟩] := by decide

theorem rollup_run_alone_is_calculate_usage_for_scope_on_january :
    UniqueUsages usageReportStore.categoryComponentUsages ∧
    ∃ t, run (initial usageReportStore januaryStart januaryEnd [projectOne])
        (serial 0 (usagePlan usageReportStore januaryStart januaryEnd projectOne).length) =
          ⟨{ usageReportStore with categoryComponentUsages := t }, [⟨projectOne, [], .ready⟩]⟩ ∧
      UniqueUsages t :=
  have hunique : UniqueUsages usageReportStore.categoryComponentUsages := List.nodup_nil
  let ⟨t, _, hrun, ht, _⟩ :=
    rollup_run_alone_is_calculate_usage_for_scope hunique januaryStart januaryEnd projectOne
  ⟨hunique, t, hrun, ht⟩

/-! ## Runs of different scopes -/

/-- Everything a round trip can do: a lookup by a ready run, or the write of a run whose
lookup has found. -/
theorem advance_eq_some {st st' : Store} {w w' : Worker} {move : Move}
    (h : advance st w move = some (st', w')) :
    (∃ u rest, w.phase = .ready ∧ w.pending = u :: rest ∧ st' = st ∧
      w' = { w with phase := lookupPhase st.categoryComponentUsages u.key }) ∨
    (∃ found u rest, w.phase = .found found ∧ w.pending = u :: rest ∧
      st' = { st with
              categoryComponentUsages := writeUsage st.categoryComponentUsages u found } ∧
      w' = { w with pending := rest, phase := .ready }) := by
  cases move with
  | lookup =>
      simp only [advance] at h
      split at h
      · rename_i hphase hpending
        cases h
        exact .inl ⟨_, _, hphase, hpending, rfl, rfl⟩
      · cases h
  | write =>
      simp only [advance] at h
      split at h
      · rename_i hphase hpending
        cases h
        exact .inr ⟨_, _, _, hphase, hpending, rfl, rfl⟩
      · cases h

theorem lookupPhase_of_unique {t : Table CategoryComponentUsage} (h : UniqueUsages t)
    (key : UsageKey) : lookupPhase t key = .found (usagesWith t key).head? := by
  simp [lookupPhase, lookupUsage_of_unique h]

/-- The rows a run's pending lookup found are still the table's; a run that raised is not
sound. -/
def PhaseSound (t : Table CategoryComponentUsage) (w : Worker) : Prop :=
  match w.phase with
  | .ready => True
  | .found found => ∃ u rest, w.pending = u :: rest ∧ usagesWith t u.key = found.toList
  | .failed _ => False

section Distinct

variable (s : Store) (start stop : DateTime)

/-- What a run relies on in the table: the calls it has made carry their defaults, and
its phase is sound. -/
structure WorkerSound (t : Table CategoryComponentUsage) (w : Worker) : Prop where
  done : ∃ done, done ++ w.pending = usagePlan s start stop w.scope ∧ ∀ u ∈ done, Carries t u
  phase : PhaseSound t w

/-- The invariant of runs over pairwise different scopes. -/
structure Sound (d : Rollups) : Prop where
  unique : UniqueUsages d.store.categoryComponentUsages
  scopes_nodup : (d.workers.map Worker.scope).Nodup
  workers : ∀ w ∈ d.workers, WorkerSound s start stop d.store.categoryComponentUsages w

variable {s start stop}

theorem key_scope_of_mem_usagePlan {scope : ScopeRef} {u : Upsert}
    (h : u ∈ usagePlan s start stop scope) : u.key.scope = scope := by
  simp only [usagePlan, List.mem_map] at h
  obtain ⟨_, _, rfl⟩ := h
  rfl

/-- A run only reads keys of its own scope. -/
theorem WorkerSound.frame {t t' : Table CategoryComponentUsage} {w : Worker}
    (h : WorkerSound s start stop t w)
    (hsame : ∀ key, key.scope = w.scope → usagesWith t' key = usagesWith t key) :
    WorkerSound s start stop t' w := by
  obtain ⟨⟨done, hplan, hdone⟩, hphase⟩ := h
  have hkeys : ∀ u ∈ done ++ w.pending, usagesWith t' u.key = usagesWith t u.key :=
    fun u hu => hsame _ (key_scope_of_mem_usagePlan (hplan ▸ hu))
  refine ⟨⟨done, hplan, fun u hu => ?_⟩, ?_⟩
  · obtain ⟨r, hr, hreported, hfixed⟩ := hdone u hu
    exact ⟨r, (hkeys u (List.mem_append_left _ hu)).trans hr, hreported, hfixed⟩
  · obtain ⟨scope, pending, phase⟩ := w
    cases phase with
    | ready => trivial
    | found found =>
        obtain ⟨u, rest, hpending, hu⟩ := hphase
        exact ⟨u, rest, hpending,
          (hkeys u (List.mem_append_right _ (hpending ▸ List.mem_cons_self u rest))).trans hu⟩
    | failed e => exact hphase.elim

/-- Another run than `i` has another scope. -/
theorem mem_set_of_scopes_nodup {l : List Worker} {i : Nat} {w w' v : Worker}
    (hnodup : (l.map Worker.scope).Nodup) (hw : l[i]? = some w) (hv : v ∈ l.set i w') :
    v = w' ∨ (v ∈ l ∧ v.scope ≠ w.scope) := by
  obtain ⟨hi, rfl⟩ := List.getElem?_eq_some_iff.mp hw
  obtain ⟨j, hj, rfl⟩ := List.mem_iff_getElem.mp hv
  rw [List.getElem_set]
  split
  · exact .inl rfl
  · rename_i hij
    rw [List.length_set] at hj
    refine .inr ⟨List.getElem_mem _, fun hscope => hij ?_⟩
    have hi' : i < (l.map Worker.scope).length := by simpa using hi
    have hj' : j < (l.map Worker.scope).length := by simpa using hj
    have heq : (l.map Worker.scope)[i] = (l.map Worker.scope)[j] := by simpa using hscope.symm
    exact (List.Nodup.getElem_inj_iff hnodup).mp heq

theorem scopes_nodup_set {l : List Worker} {i : Nat} {w w' : Worker}
    (h : (l.map Worker.scope).Nodup) (hw : l[i]? = some w) (hscope : w'.scope = w.scope) :
    ((l.set i w').map Worker.scope).Nodup := by
  rwa [List.map_set, hscope, list_set_of_getElem? (by simp [hw])]

theorem lookup_sound {d : Rollups} {i : Nat} {w : Worker} {u : Upsert} {rest : List Upsert}
    (h : Sound s start stop d) (hw : d.workers[i]? = some w) (hpending : w.pending = u :: rest) :
    Sound s start stop ⟨d.store, d.workers.set i
      { w with phase := lookupPhase d.store.categoryComponentUsages u.key }⟩ := by
  rw [lookupPhase_of_unique h.unique]
  refine ⟨h.unique, scopes_nodup_set h.scopes_nodup hw rfl, fun v hv => ?_⟩
  rcases List.mem_or_eq_of_mem_set hv with hv | rfl
  · exact h.workers v hv
  · exact ⟨(h.workers w (List.getElem?_mem hw)).done,
      u, rest, hpending, usagesWith_of_unique h.unique u.key⟩

theorem write_sound {d : Rollups} {i : Nat} {w : Worker} {found : Option CategoryComponentUsage}
    {u : Upsert} {rest : List Upsert} (h : Sound s start stop d) (hw : d.workers[i]? = some w)
    (hphase : w.phase = .found found) (hpending : w.pending = u :: rest) :
    Sound s start stop
      ⟨{ d.store with
         categoryComponentUsages := writeUsage d.store.categoryComponentUsages u found },
        d.workers.set i { w with pending := rest, phase := .ready }⟩ := by
  obtain ⟨⟨done, hplan, hdone⟩, hph⟩ := h.workers w (List.getElem?_mem hw)
  have hfound : usagesWith d.store.categoryComponentUsages u.key = found.toList := by
    simp only [PhaseSound, hphase, hpending] at hph
    obtain ⟨_, _, ⟨rfl, rfl⟩, hu⟩ := hph
    exact hu
  obtain ⟨hcarries, hframe⟩ := writeUsage_spec hfound
  have hnodup := usagePlan_keys_nodup s start stop w.scope
  rw [← hplan, hpending, List.map_append, List.nodup_append] at hnodup
  have hfresh : u.key ∉ done.map (·.key) := fun hmem =>
    hnodup.2.2 hmem (List.mem_map_of_mem _ (List.mem_cons_self u rest))
  have hplanned : u ∈ usagePlan s start stop w.scope := by
    rw [← hplan, hpending]
    exact List.mem_append_right _ (List.mem_cons_self u rest)
  have hscope : u.key.scope = w.scope := key_scope_of_mem_usagePlan hplanned
  refine ⟨unique_writeUsage h.unique hfound, scopes_nodup_set h.scopes_nodup hw rfl,
    fun v hv => ?_⟩
  rcases mem_set_of_scopes_nodup h.scopes_nodup hw hv with rfl | ⟨hv, hne⟩
  · refine ⟨⟨done ++ [u], by simp [← hplan, hpending], fun v hv => ?_⟩, trivial⟩
    rcases List.mem_append.mp hv with hv | hv
    · obtain ⟨r, hr, hreported, hfixed⟩ := hdone v hv
      refine ⟨r, (hframe v.key fun heq => hfresh ?_).trans hr, hreported, hfixed⟩
      exact heq ▸ List.mem_map_of_mem _ hv
    · rw [List.mem_singleton.mp hv]
      exact hcarries
  · exact (h.workers v hv).frame fun key hkey =>
      hframe key fun heq => hne (hkey.symm.trans (heq ▸ hscope))

theorem step_sound {d : Rollups} (h : Sound s start stop d) (m : Nat × Move) :
    Sound s start stop (step d m) := by
  obtain ⟨i, move⟩ := m
  simp only [step]
  split
  · rename_i w hw
    split
    · rename_i st' w' hadvance
      rcases advance_eq_some hadvance with
        ⟨u, rest, -, hpending, rfl, rfl⟩ | ⟨found, u, rest, hphase, hpending, rfl, rfl⟩
      · exact lookup_sound h hw hpending
      · exact write_sound h hw hphase hpending
    · exact h
  · exact h

theorem run_sound {d : Rollups} (h : Sound s start stop d) (schedule : List (Nat × Move)) :
    Sound s start stop (run d schedule) := by
  induction schedule generalizing d with
  | nil => exact h
  | cons m rest ih => exact ih (step_sound h m)

/-- Roll-ups of pairwise different scopes, interleaved in any way from a table with one row
per key: the table keeps one row per key, no lookup raises, and a run that has made all its
calls leaves each of its keys with one row, carrying that call's defaults. -/
theorem rollups_of_distinct_scopes_keep_one_row_per_key {scopes : List ScopeRef}
    (hscopes : scopes.Nodup) (hunique : UniqueUsages s.categoryComponentUsages)
    (schedule : List (Nat × Move)) :
    let final := run (initial s start stop scopes) schedule
    UniqueUsages final.store.categoryComponentUsages ∧
      (∀ w ∈ final.workers, ∀ e, w.phase ≠ .failed e) ∧
      ∀ w ∈ final.workers, w.pending = [] →
        ∀ u ∈ usagePlan s start stop w.scope, Carries final.store.categoryComponentUsages u := by
  have hinitial : Sound s start stop (initial s start stop scopes) :=
    ⟨hunique, by simpa [initial, Function.comp_def] using hscopes, fun w hw => by
      obtain ⟨scope, -, rfl⟩ := List.mem_map.mp hw
      exact ⟨⟨[], rfl, by simp⟩, trivial⟩⟩
  have hfinal := run_sound hinitial schedule
  refine ⟨hfinal.unique, fun w hw e hfailed => ?_, fun w hw hdone u hu => ?_⟩
  · have hphase := (hfinal.workers w hw).phase
    simp only [PhaseSound, hfailed] at hphase
  · obtain ⟨done, hplan, hcarries⟩ := (hfinal.workers w hw).done
    rw [hdone, List.append_nil] at hplan
    exact hcarries u (hplan ▸ hu)

/-- Organization 1 as a roll-up scope, next to its project 1. -/
def customerOne : ScopeRef := ⟨customerContentType, 1⟩

theorem rollups_of_distinct_scopes_keep_one_row_per_key_on_january :
    [projectOne, customerOne].Nodup ∧ UniqueUsages usageReportStore.categoryComponentUsages ∧
    UniqueUsages (run (initial usageReportStore januaryStart januaryEnd [projectOne, customerOne])
      [(0, .lookup), (1, .lookup), (0, .write), (1, .write)]).store.categoryComponentUsages :=
  have hscopes : [projectOne, customerOne].Nodup := by decide
  have hunique : UniqueUsages usageReportStore.categoryComponentUsages := List.nodup_nil
  ⟨hscopes, hunique, (@rollups_of_distinct_scopes_keep_one_row_per_key usageReportStore
    januaryStart januaryEnd _ hscopes hunique
    [(0, .lookup), (1, .lookup), (0, .write), (1, .write)]).1⟩

end Distinct

/-! ## Two runs of one scope -/

/-- Two runs for project 1, both looking the key up before either writes. -/
def overlappingRollups : Rollups :=
  run (initial usageReportStore januaryStart januaryEnd [projectOne, projectOne])
    [(0, .lookup), (1, .lookup), (0, .write), (1, .write)]

/-- Both overlapping runs find no row and both insert one. The next roll-up of the project then
raises `MultipleObjectsReturned`. -/
theorem overlapping_rollups_duplicate_usage_row :
    UniqueUsages usageReportStore.categoryComponentUsages ∧
      (usagesWith overlappingRollups.store.categoryComponentUsages
        ⟨projectOne, 7, ⟨2024, 1, 1⟩⟩).length = 2 ∧
      calculateUsageForScope januaryStart januaryEnd projectOne overlappingRollups.store =
        .error (.multipleObjectsReturned "CategoryComponentUsage") overlappingRollups.store :=
  ⟨List.nodup_nil, by decide, rfl⟩

end Waldur.Rollup
