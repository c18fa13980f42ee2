/-
# Default categories

A category can be the default one for OpenStack volumes, virtual machines or tenants; each
flag is meant to be set on one category at most. `Category.clean_fields` refuses a category
that raises a flag another category already has, naming that category in the message. This
module shows that every save made after the check, in any order and whichever of them are
refused, keeps each flag on one category at most. The check and the save are separate
steps: the guarantee is about saves that follow one another, not about saves that overlap.
-/

import Mathlib
import Waldur.Core.Table
import Waldur.Core.Program

namespace Waldur

/-- The columns of `Category` that `clean_fields` reads. -/
structure Category where
  id : Nat
  title : String
  defaultVmCategory : Bool
  defaultVolumeCategory : Bool
  defaultTenantCategory : Bool
  deriving DecidableEq, Repr

instance : Row Category Nat := ⟨Category.id⟩

/-- The flags `clean_fields` checks, in the order it checks them. -/
inductive DefaultFlag
  | defaultVolumeCategory | defaultVmCategory | defaultTenantCategory
  deriving DecidableEq, Repr

namespace DefaultFlag

/-- `getattr(category, flag)`. -/
def get : DefaultFlag → Category → Bool
  | defaultVolumeCategory, c => c.defaultVolumeCategory
  | defaultVmCategory, c => c.defaultVmCategory
  | defaultTenantCategory, c => c.defaultTenantCategory

/-- The field name. -/
def name : DefaultFlag → String
  | defaultVolumeCategory => "default_volume_category"
  | defaultVmCategory => "default_vm_category"
  | defaultTenantCategory => "default_tenant_category"

end DefaultFlag

/-- `Category.objects.filter(**{flag: True}).exclude(id=self.id).first()`, with the model's
ordering by title; categories of one title come in the order the table holds them. -/
def firstWithFlag (t : Table Category) (flag : DefaultFlag) (self : Category) :
    Option Category :=
  ((t.rows.filter fun c => flag.get c && c.id != self.id).mergeSort
    fun a b => decide (a.title ≤ b.title)).head?

/-- `str(ValidationError({flag: message}))`, as Django prints a dictionary of errors. -/
def flagTakenMessage (flag : DefaultFlag) (category : Category) : String :=
  "\x7b'" ++ flag.name ++ "': ['" ++ category.title ++ " is already " ++
    flag.name.replace "_" " " ++ ".']\x7d"

/-- The body of the loop of `clean_fields` for one flag. -/
def checkDefaultFlag (t : Table Category) (self : Category) (flag : DefaultFlag) :
    Except Error Unit := do
  if flag.get self then
    if let some category := firstWithFlag t flag self then
      throw (.validationError (flagTakenMessage flag category))

/-- `Category.clean_fields`, after the field checks of Django that it first calls. -/
def Category.cleanFields (t : Table Category) (self : Category) : Except Error Unit :=
  [DefaultFlag.defaultVolumeCategory, .defaultVmCategory, .defaultTenantCategory].forM
    (checkDefaultFlag t self)

/-- A save that is validated first, as a form does: `full_clean()`, then `save()`. -/
def saveCategory (self : Category) : EStateM Error (Table Category) Unit := do
  let t ← get
  ofExcept (self.cleanFields t)
  set (t.put self)

/-- Saves one after another; a refused save leaves the table as it was. -/
def saveCategories : List Category → Table Category → Table Category
  | [], t => t
  | c :: cs, t =>
      match saveCategory c t with
      | .ok _ t' => saveCategories cs t'
      | .error _ _ => saveCategories cs t

/-- Each flag is set on one category at most: two categories with it are the same row. -/
def DefaultsUnique (t : Table Category) : Prop :=
  ∀ flag : DefaultFlag, ∀ a ∈ t.rows, ∀ b ∈ t.rows, flag.get a → flag.get b → a = b

theorem firstWithFlag_eq_none {t : Table Category} {flag : DefaultFlag} {self : Category} :
    firstWithFlag t flag self = none ↔ ∀ c ∈ t.rows, flag.get c → c.id = self.id := by
  rw [firstWithFlag, List.head?_eq_none_iff, ← List.length_eq_zero, List.length_mergeSort,
    List.length_eq_zero, List.filter_eq_nil_iff]
  simp

theorem checkDefaultFlag_eq_ok {t : Table Category} {self : Category} {flag : DefaultFlag} :
    checkDefaultFlag t self flag = .ok () ↔
      (flag.get self → ∀ c ∈ t.rows, flag.get c → c.id = self.id) := by
  rw [← firstWithFlag_eq_none]
  unfold checkDefaultFlag
  cases flag.get self <;> cases firstWithFlag t flag self <;> simp

/-- The check passes exactly when no other category has a flag the category raises. -/
theorem cleanFields_eq_ok {t : Table Category} {self : Category} :
    self.cleanFields t = .ok () ↔
      ∀ flag : DefaultFlag, flag.get self →
        ∀ c ∈ t.rows, flag.get c → c.id = self.id := by
  rw [Category.cleanFields, except_forM_eq_ok]
  simp only [checkDefaultFlag_eq_ok]
  exact ⟨fun h flag => h flag (by cases flag <;> simp), fun h flag _ => h flag⟩

/-- A save goes through exactly when the check passes, and a refused save changes nothing. -/
theorem saveCategory_apply (self : Category) (t : Table Category) :
    saveCategory self t = match self.cleanFields t with
      | .ok () => .ok () (t.put self)
      | .error e => .error e t := by
  simp only [saveCategory, bind_apply, get_apply]
  cases self.cleanFields t <;> rfl

/-- A save that passed the check keeps each flag on one category at most. -/
theorem DefaultsUnique.put {t : Table Category} (h : DefaultsUnique t) {self : Category}
    (hclean : self.cleanFields t = .ok ()) : DefaultsUnique (t.put self) := by
  have hfree := cleanFields_eq_ok.mp hclean
  intro flag a ha b hb hfa hfb
  rcases Table.mem_rows_put.mp ha with rfl | ⟨hold, hak⟩ <;>
    rcases Table.mem_rows_put.mp hb with rfl | ⟨hold', hbk⟩
  · rfl
  · exact absurd (hfree flag hfa b hold' hfb) hbk
  · exact absurd (hfree flag hfb a hold hfa) hak
  · exact h flag a hold b hold' hfa hfb

/-- Over any sequence of saves, each checked by `clean_fields` first and some of them
refused, each default flag stays on one category at most. -/
theorem default_categories_stay_unique :
    ∀ (saves : List Category) (t : Table Category), DefaultsUnique t →
      DefaultsUnique (saveCategories saves t)
  | [], _, h => h
  | c :: cs, t, h => by
    unfold saveCategories
    rw [saveCategory_apply]
    cases hc : c.cleanFields t with
    | ok u => exact default_categories_stay_unique cs _ (h.put hc)
    | error e => exact default_categories_stay_unique cs t h

theorem default_categories_stay_unique_from_empty :
    DefaultsUnique ∅ ∧ DefaultsUnique (saveCategories
      [⟨1, "Volumes", false, true, false⟩, ⟨2, "Disks", false, true, false⟩] ∅) :=
  have hempty : DefaultsUnique ∅ := fun _ a ha => absurd ha (List.not_mem_nil a)
  ⟨hempty, default_categories_stay_unique _ ∅ hempty⟩

end Waldur
