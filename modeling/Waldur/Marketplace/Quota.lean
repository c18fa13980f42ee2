/-
# Usage limits

`OfferingComponent.validate_amount` guards the reporting of usage against a component's
limit: with a monthly limit it sums the resource's usages of the month, with a total
limit all of them, and refuses an amount that would take the sum past the limit. This
module models the check as the source writes it. Its monthly filter compares each usage
timestamp with the first instant of the month, so only usages dated exactly then are
summed, and a limit of `0` counts as no limit.
-/

import Mathlib
import Waldur.Marketplace.Store

namespace Waldur

/-- The usages `validate_amount` sums: the resource's usages of the component and, for a
monthly limit, only those whose `date` equals `month_start(date)`. -/
def limitUsages (s : Store) (component : OfferingComponent) (resource : Nat)
    (period : LimitPeriod) (date : DateTime) : List ComponentUsage :=
  let usages := s.componentUsages.rows.filter fun u =>
    u.resource == resource && u.component == component.id
  if period == .month then usages.filter (·.date == monthStart date) else usages

/-- `aggregate(Sum('usage'))['usage__sum'] or 0`. -/
def usageSum (usages : List ComponentUsage) : Int := (usages.map (·.usage)).sum

/-- The message of the `ValidationError` `validate_amount` raises. -/
def limitExceededMessage (total limit : Int) : String :=
  s!"Total amount exceeds limit. Total amount: {total}, limit: {limit}."

/-- `OfferingComponent.validate_amount(resource, amount, date)`. -/
def OfferingComponent.validateAmount (s : Store) (component : OfferingComponent)
    (resource : Nat) (amount : Int) (date : DateTime) : Except Error Unit := do
  let some period := component.limitPeriod | return
  let some limit := component.limitAmount | return
  if limit = 0 then return
  let total := usageSum (limitUsages s component resource period date)
  if total + amount > limit then
    throw (.validationError (limitExceededMessage (total + amount) limit))

/-- `validate_amount` raises exactly when the component has a period and a nonzero
limit and the usages it sums, with the amount, exceed that limit. -/
theorem validateAmount_eq_error_iff {s : Store} {component : OfferingComponent}
    {resource : Nat} {amount : Int} {date : DateTime} :
    (∃ e, component.validateAmount s resource amount date = .error e) ↔
      ∃ period limit, component.limitPeriod = some period ∧
        component.limitAmount = some limit ∧ limit ≠ 0 ∧
        limit < usageSum (limitUsages s component resource period date) + amount := by
  unfold OfferingComponent.validateAmount
  rcases hperiod : component.limitPeriod with _ | period
  · simp
  rcases hlimit : component.limitAmount with _ | limit
  · simp
  by_cases hzero : limit = 0
  · simp [hzero]
  by_cases hexceeds : limit < usageSum (limitUsages s component resource period date) + amount
  · simp only [hzero, hexceeds, if_true, if_false, gt_iff_lt, except_ok_bind]
    exact iff_of_true ⟨_, rfl⟩ ⟨period, limit, rfl, rfl, hzero, hexceeds⟩
  · simp [hzero, hexceeds]

/-- A usage component with a monthly limit of 100. -/
def monthlyLimitComponent : OfferingComponent :=
  ⟨1, 1, none, "cpu", .usage, some .month, some 100, none, none⟩

/-- Resource 1 reported 60 at 10:00 on 15 January 2024. -/
def midMonthUsageStore : Store where
  componentUsages := ⟨[⟨1, 1, 1, 60, ⟨⟨2024, 1, 15⟩, 36000000000⟩, none, ⟨2024, 1, 1⟩⟩], by decide⟩

/-- With 60 already reported in January, validating 50 more on 20 January passes,
although the month's usage and the amount come to 110, over the limit of 100. -/
theorem validateAmount_ignores_mid_month_usage :
    monthlyLimitComponent.validateAmount midMonthUsageStore 1 50 ⟨⟨2024, 1, 20⟩, 0⟩ = .ok () ∧
      100 < usageSum (midMonthUsageStore.componentUsages.rows.filter fun u =>
        u.resource == 1 && u.component == 1 &&
          decide (sameMonth u.date ⟨⟨2024, 1, 20⟩, 0⟩)) + 50 := by
  refine ⟨?_, by decide⟩
  cases h : monthlyLimitComponent.validateAmount midMonthUsageStore 1 50 ⟨⟨2024, 1, 20⟩, 0⟩ with
  | ok _ => rfl
  | error e =>
      obtain ⟨period, limit, hperiod, hlimit, -, hexceeds⟩ := validateAmount_eq_error_iff.mp ⟨e, h⟩
      cases hperiod
      cases hlimit
      exact absurd hexceeds (by decide)

end Waldur
