/-
# Limit validation

`validate_limits` (in `marketplace/utils.py`) guards a limit update of a live resource: the
offering's plugin must support limit updates, every requested key must name one of the
offering's LIMIT-billed components, and each requested value must lie within that component's
`max_value` and `min_value`. The bounds are read through Python's `and`, so a bound of `0` is
skipped as if it were unset; a negative limit then passes a zero minimum and lowers the
estimate `Plan.get_estimate` computes from it.
-/

import Waldur.Marketplace.Checkout

namespace Waldur

/-- The message of the check on the plugin. -/
def limitsNotSupportedMessage : String := "Limits update is not supported for this resource."

/-- The message of the check on the keys. -/
def invalidTypesMessage (types : List String) : String :=
  "Invalid types: " ++ ", ".intercalate types

/-- The message of a limit above `max_value`. -/
def limitAboveMaxMessage (value bound : Int) : String :=
  s!"The limit {value} value cannot be more than {bound}."

/-- The message of a limit below `min_value`. -/
def limitBelowMinMessage (value bound : Int) : String :=
  s!"The limit {value} value cannot be less than {bound}."

/-- A nullable integer column as Python's `and` reads it: its value when it is set and not 0. -/
def truthy (v : Option Int) : Option Int := v.filter (· ≠ 0)

/-- `valid_component_types`: the types of the offering's LIMIT-billed components. -/
def validComponentTypes (s : Store) (offering : Nat) : List String :=
  (getLimitComponents s offering).map (·.type)

/-- `components_map.get(key)`: the dictionary is built over the offering's components whose
type is valid, a later one replacing an earlier one of the same type. -/
def componentsMapGet (s : Store) (offering : Nat) (key : String) : Option OfferingComponent :=
  (s.offeringComponents.rows.filter fun c =>
    c.offering == offering && c.type ∈ validComponentTypes s offering && c.type == key).getLast?

/-- `if not plugins.manager.can_update_limits(offering.type): raise ...`. -/
def checkCanUpdateLimits (plugins : PluginManager) (offering : Offering) : Except Error Unit :=
  if plugins.canUpdateLimits offering.type then .ok ()
  else .error (.fieldValidationError "limits" limitsNotSupportedMessage)

/-- `invalid_types = set(limits.keys()) - valid_component_types`, raised when not empty. -/
def checkLimitTypes (s : Store) (limits : List (String × Int)) (offering : Nat) :
    Except Error Unit :=
  match ((limits.map Prod.fst).filter (· ∉ validComponentTypes s offering)).dedup with
  | [] => .ok ()
  | invalid => .error (.fieldValidationError "limits" (invalidTypesMessage invalid))

/-- `if component.max_value and value > component.max_value: raise ...`. -/
def checkMaxValue (component : OfferingComponent) (value : Int) : Except Error Unit :=
  match truthy component.maxValue with
  | some bound =>
      if value > bound then .error (.validationError (limitAboveMaxMessage value bound))
      else .ok ()
  | none => .ok ()

/-- `if component.min_value and value < component.min_value: raise ...`. -/
def checkMinValue (component : OfferingComponent) (value : Int) : Except Error Unit :=
  match truthy component.minValue with
  | some bound =>
      if value < bound then .error (.validationError (limitBelowMinMessage value bound))
      else .ok ()
  | none => .ok ()

/-- The loop over `limits.items()`: a key without a component is skipped (`continue`). -/
def checkLimitValues (s : Store) (offering : Nat) : List (String × Int) → Except Error Unit
  | [] => .ok ()
  | (key, value) :: rest => do
      match componentsMapGet s offering key with
      | none => pure ()
      | some component => do
          checkMaxValue component value
          checkMinValue component value
      checkLimitValues s offering rest

/-- `validate_limits(limits, offering)`. -/
def validateLimits (plugins : PluginManager) (s : Store) (limits : List (String × Int))
    (offering : Offering) : Except Error Unit := do
  checkCanUpdateLimits plugins offering
  checkLimitTypes s limits offering.id
  checkLimitValues s offering.id limits

/-! ## What `validate_limits` accepts -/

@[simp] theorem checkCanUpdateLimits_eq_ok {plugins : PluginManager} {offering : Offering} :
    checkCanUpdateLimits plugins offering = .ok () ↔ plugins.canUpdateLimits offering.type := by
  unfold checkCanUpdateLimits
  split <;> simp_all

@[simp] theorem checkLimitTypes_eq_ok {s : Store} {limits : List (String × Int)} {offering : Nat} :
    checkLimitTypes s limits offering = .ok () ↔
      ∀ kv ∈ limits, kv.1 ∈ validComponentTypes s offering := by
  have hnil : ((limits.map Prod.fst).filter (· ∉ validComponentTypes s offering)).dedup = [] ↔
      ∀ kv ∈ limits, kv.1 ∈ validComponentTypes s offering := by
    simp [List.dedup_eq_nil, List.filter_eq_nil_iff]
  unfold checkLimitTypes
  rw [← hnil]
  split
  · exact iff_of_true rfl ‹_›
  · exact iff_of_false (fun h => Except.noConfusion h) ‹_›

@[simp] theorem checkMaxValue_eq_ok {component : OfferingComponent} {value : Int} :
    checkMaxValue component value = .ok () ↔ ∀ b ∈ truthy component.maxValue, value ≤ b := by
  unfold checkMaxValue
  split <;> simp_all

@[simp] theorem checkMinValue_eq_ok {component : OfferingComponent} {value : Int} :
    checkMinValue component value = .ok () ↔ ∀ b ∈ truthy component.minValue, b ≤ value := by
  unfold checkMinValue
  split <;> simp_all

/-- A unit-valued check succeeds exactly when it returns `()`. -/
theorem except_unit_exists_ok {e : Except Error Unit} : (∃ u, e = .ok u) ↔ e = .ok () :=
  ⟨fun ⟨(), h⟩ => h, fun h => ⟨(), h⟩⟩

theorem checkLimitValues_eq_ok {s : Store} {offering : Nat} {limits : List (String × Int)} :
    checkLimitValues s offering limits = .ok () ↔
      ∀ kv ∈ limits, ∀ c ∈ componentsMapGet s offering kv.1,
        (∀ b ∈ truthy c.maxValue, kv.2 ≤ b) ∧ (∀ b ∈ truthy c.minValue, b ≤ kv.2) := by
  induction limits with
  | nil => simp [checkLimitValues]
  | cons kv rest ih =>
      obtain ⟨key, value⟩ := kv
      cases hget : componentsMapGet s offering key <;>
        simp [checkLimitValues, hget, ih, except_bind_eq_ok, except_unit_exists_ok, and_assoc]

/-- `validate_limits` returns exactly when the plugin supports limit updates, every key is a
LIMIT component type, and every value lies within the bounds of its component that are set
and not 0. -/
theorem validateLimits_eq_ok_iff {plugins : PluginManager} {s : Store}
    {limits : List (String × Int)} {offering : Offering} :
    validateLimits plugins s limits offering = .ok () ↔
      plugins.canUpdateLimits offering.type ∧
      (∀ kv ∈ limits, kv.1 ∈ validComponentTypes s offering.id) ∧
      ∀ kv ∈ limits, ∀ c ∈ componentsMapGet s offering.id kv.1,
        (∀ b ∈ truthy c.maxValue, kv.2 ≤ b) ∧ (∀ b ∈ truthy c.minValue, b ≤ kv.2) := by
  simp [validateLimits, except_bind_eq_ok, except_unit_exists_ok, checkLimitValues_eq_ok]

/-- The bounds as the specification reads them: each value respects every bound its
component configures, a bound of 0 included. -/
def withinConfiguredBounds (s : Store) (offering : Nat) (limits : List (String × Int)) :
    Prop :=
  ∀ kv ∈ limits, ∀ c ∈ componentsMapGet s offering kv.1,
    (∀ b ∈ c.maxValue, kv.2 ≤ b) ∧ (∀ b ∈ c.minValue, b ≤ kv.2)

instance {s : Store} {offering : Nat} {limits : List (String × Int)} :
    Decidable (withinConfiguredBounds s offering limits) :=
  inferInstanceAs (Decidable (∀ kv ∈ limits, ∀ c ∈ componentsMapGet s offering kv.1, _))

/-- An offering with one LIMIT component, cores, whose configured minimum is 0, priced 2
per core by plan 1 on top of a unit price of 10. -/
def limitOffering : Offering :=
  ⟨1, "Tenant", "OpenStack.Admin", true, true, some 1, none, none, 1, none, .active⟩

def limitStore : Store where
  offerings := ⟨[limitOffering], by decide⟩
  offeringComponents := ⟨[⟨1, 1, none, "cores", .limit, none, none, none, some 0⟩], by decide⟩
  plans := ⟨[⟨1, 1, 10⟩], by decide⟩
  planComponents := ⟨[⟨1, 1, some 1, 0, 2⟩], by decide⟩

/-- A registry whose plugins all support limit updates, with no factors. -/
def limitPlugins : PluginManager where
  getProcessor _ _ := none
  canUpdateLimits _ := true
  components _ := []

/-- A limit of -1 cores passes the zero minimum, and the plan's estimate for it is 8, below
the unit price of 10 that a limit of 0 costs. -/
theorem negative_limit_passes_zero_minimum :
    validateLimits limitPlugins limitStore [("cores", -1)] limitOffering = .ok () ∧
    ¬ withinConfiguredBounds limitStore limitOffering.id [("cores", -1)] ∧
    Plan.getEstimate limitPlugins limitStore ⟨1, 1, 10⟩ [("cores", -1)] = .ok 8 ∧
    Plan.getEstimate limitPlugins limitStore ⟨1, 1, 10⟩ [("cores", 0)] = .ok 10 := by
  refine ⟨validateLimits_eq_ok_iff.mpr ⟨rfl, by decide, by decide⟩, by decide, ?_, ?_⟩ <;>
    norm_num [Plan.getEstimate, componentPrices, getLimitComponents, limitStore, limitPlugins,
      limitOffering, dictGet, Table.fetch, Table.get?, Row.pk]

end Waldur
