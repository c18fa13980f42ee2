/-
# The marketplace database

The rows of the Django models that the modelled functions read or write, each with the
columns those functions use, and the database as one record of tables. A foreign key
holds the primary key of the row it references; a generic foreign key
(`ScopeMixin.scope`) holds a content type and an object id. Decimal columns are
rationals and integer columns are integers.
-/

import Waldur.Core.Table
import Waldur.Core.Calendar
import Waldur.Core.Program
import Waldur.Marketplace.States
import Mathlib.Data.Rat.Defs

namespace Waldur

/-- A generic foreign key: `content_type` and `object_id`. -/
structure ScopeRef where
  contentType : String
  objectId : Nat
  deriving DecidableEq, Repr

/-- `OfferingComponent.BillingTypes`. -/
inductive BillingType
  | fixed | usage | oneTime | onPlanSwitch | limit
  deriving DecidableEq, Repr

/-- `OfferingComponent.LimitPeriods`. -/
inductive LimitPeriod
  | month | total
  deriving DecidableEq, Repr

/-- `Invoice.States`. -/
inductive InvoiceState
  | pending | created | paid | canceled
  deriving DecidableEq, Repr

/-- `dict.get(key, default)` on a dictionary keyed by strings. -/
def dictGet {β : Type} (dict : List (String × β)) (key : String) (default : β) : β :=
  ((dict.find? (·.1 = key)).map Prod.snd).getD default

structure Customer where
  id : Nat
  name : String
  blocked : Bool
  deriving DecidableEq, Repr

structure Project where
  id : Nat
  customer : Nat
  name : String
  uuid : String
  endDate : Option Date
  deriving DecidableEq, Repr

structure Offering where
  id : Nat
  name : String
  type : String
  shared : Bool
  billable : Bool
  customer : Option Nat
  project : Option Nat
  scope : Option ScopeRef
  category : Nat
  parent : Option Nat
  state : OfferingState
  deriving DecidableEq, Repr

structure OfferingComponent where
  id : Nat
  offering : Nat
  parent : Option Nat
  type : String
  billingType : BillingType
  limitPeriod : Option LimitPeriod
  limitAmount : Option Int
  maxValue : Option Int
  minValue : Option Int
  deriving DecidableEq, Repr

structure Plan where
  id : Nat
  offering : Nat
  unitPrice : ℚ
  deriving DecidableEq, Repr

structure PlanComponent where
  id : Nat
  plan : Nat
  component : Option Nat
  amount : Nat
  price : ℚ
  deriving DecidableEq, Repr

structure Order where
  id : Nat
  project : Nat
  state : OrderState
  approvedBy : Option Nat
  approvedAt : Option DateTime
  deriving DecidableEq, Repr

structure OrderItem where
  id : Nat
  order : Nat
  offering : Nat
  resource : Option Nat
  plan : Option Nat
  limits : List (String × Int)
  type : RequestType
  state : OrderItemState
  cost : Option ℚ
  errorMessage : String
  errorTraceback : String
  deriving DecidableEq, Repr

structure Resource where
  id : Nat
  project : Nat
  offering : Nat
  state : ResourceState
  scope : Option ScopeRef
  endDate : Option Date
  deriving DecidableEq, Repr

/-- `ResourcePlanPeriod`; `stop` is the `end` column of `TimeFramedModel`. -/
structure ResourcePlanPeriod where
  id : Nat
  resource : Nat
  plan : Nat
  start : Option DateTime
  stop : Option DateTime
  deriving DecidableEq, Repr

structure ComponentUsage where
  id : Nat
  resource : Nat
  component : Nat
  usage : Int
  date : DateTime
  planPeriod : Option Nat
  billingPeriod : Date
  deriving DecidableEq, Repr

/-- `CategoryComponentUsage`; `scope` is its generic foreign key to a customer or project. -/
structure CategoryComponentUsage where
  id : Nat
  scope : ScopeRef
  component : Nat
  date : Date
  reportedUsage : Option Int
  fixedUsage : Option Int
  deriving DecidableEq, Repr

structure Invoice where
  id : Nat
  customer : Nat
  year : Nat
  month : Nat
  state : InvoiceState
  currentCost : ℚ
  deriving DecidableEq, Repr

/-- The keys of `InvoiceItem.details` that the marketplace reads. -/
structure InvoiceItemDetails where
  planComponentId : Option Nat
  offeringComponentType : Option String
  deriving DecidableEq, Repr

/-- `InvoiceItem`; `stop` is its `end` column. -/
structure InvoiceItem where
  id : Nat
  invoice : Nat
  resource : Option Nat
  project : Option Nat
  projectUuid : String
  projectName : String
  articleCode : String
  details : InvoiceItemDetails
  start : DateTime
  stop : DateTime
  quantity : Int
  deriving DecidableEq, Repr

structure ServiceSettings where
  id : Nat
  scope : Option ScopeRef
  type : String
  deriving DecidableEq, Repr

/-- A backend object that a generic foreign key names, such as an OpenStack tenant. -/
structure ScopedObject where
  ref : ScopeRef
  project : Nat
  deriving DecidableEq, Repr

instance : Row Customer Nat := ⟨Customer.id⟩
instance : Row Project Nat := ⟨Project.id⟩
instance : Row Offering Nat := ⟨Offering.id⟩
instance : Row OfferingComponent Nat := ⟨OfferingComponent.id⟩
instance : Row Plan Nat := ⟨Plan.id⟩
instance : Row PlanComponent Nat := ⟨PlanComponent.id⟩
instance : Row Order Nat := ⟨Order.id⟩
instance : Row OrderItem Nat := ⟨OrderItem.id⟩
instance : Row Resource Nat := ⟨Resource.id⟩
instance : Row ResourcePlanPeriod Nat := ⟨ResourcePlanPeriod.id⟩
instance : Row ComponentUsage Nat := ⟨ComponentUsage.id⟩
instance : Row CategoryComponentUsage Nat := ⟨CategoryComponentUsage.id⟩
instance : Row Invoice Nat := ⟨Invoice.id⟩
instance : Row InvoiceItem Nat := ⟨InvoiceItem.id⟩
instance : Row ServiceSettings Nat := ⟨ServiceSettings.id⟩
instance : Row ScopedObject ScopeRef := ⟨ScopedObject.ref⟩

/-- The database. -/
structure Store where
  customers : Table Customer := ∅
  projects : Table Project := ∅
  offerings : Table Offering := ∅
  offeringComponents : Table OfferingComponent := ∅
  plans : Table Plan := ∅
  planComponents : Table PlanComponent := ∅
  orders : Table Order := ∅
  orderItems : Table OrderItem := ∅
  resources : Table Resource := ∅
  resourcePlanPeriods : Table ResourcePlanPeriod := ∅
  componentUsages : Table ComponentUsage := ∅
  categoryComponentUsages : Table CategoryComponentUsage := ∅
  invoices : Table Invoice := ∅
  invoiceItems : Table InvoiceItem := ∅
  serviceSettings : Table ServiceSettings := ∅
  scopes : Table ScopedObject := ∅

/-- A related row fetched through its foreign key; Django raises when it is gone. -/
def Table.fetch {α κ : Type} [Row α κ] [DecidableEq κ] (t : Table α) (key : κ)
    (model : String) : Except Error α :=
  match t.get? key with
  | some r => .ok r
  | none => .error (.doesNotExist model)

theorem Table.fetch_eq_ok {α κ : Type} [Row α κ] [DecidableEq κ] {t : Table α} {key : κ}
    {model : String} {r : α} : t.fetch key model = .ok r ↔ t.get? key = some r := by
  unfold Table.fetch
  split <;> simp_all

/-- The message Django raises when `save(update_fields=...)` finds no row to update. -/
def noRowsUpdated : Error := .databaseError "Save with update_fields did not affect any rows."

/-- `obj.save(update_fields=[...])` on a table: rewrite the stored row with `f`, which
changes only the listed columns; Django raises when the row is gone. -/
def Table.saveFields {α κ : Type} [Row α κ] [DecidableEq κ] (t : Table α) (key : κ)
    (f : α → α) (hf : ∀ r, Row.pk (f r) = Row.pk r) : Except Error (Table α) :=
  if key ∈ t.keys then .ok (t.update key f hf) else .error noRowsUpdated

end Waldur
