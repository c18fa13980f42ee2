/-
# Programs over the database

Code that reads and writes the database runs in `EStateM Error σ`, where `σ` is the
database. An exception carries the state it was raised in: writes made before a
`raise` stay, as they do in Python outside a transaction. `transaction.atomic` is
the wrapper that puts back the state its block started from.
-/

import Mathlib.Logic.Basic

namespace Waldur

/-- The exceptions the modelled code raises or lets through. `raised` is any other
`Exception`, such as one a provisioning processor throws. -/
inductive Error
  | transitionNotAllowed (state : Nat) (method : String)
  | validationError (message : String)
  | fieldValidationError (field message : String)
  | moveResourceException (message : String)
  | doesNotExist (model : String)
  | multipleObjectsReturned (model : String)
  | databaseError (message : String)
  | attributeError (message : String)
  | divisionByZero
  | invalidOperation
  | raised (message : String)
  deriving DecidableEq, Repr

/-- `str(e)` for an exception of the model. -/
def Error.message : Error → String
  | .transitionNotAllowed state method =>
      "Can't switch from state '" ++ toString state ++ "' using method '" ++ method ++ "'"
  | .validationError message => message
  | .fieldValidationError field message =>
      "\x7b'" ++ field ++ "': ErrorDetail(string='" ++ message ++ "', code='invalid')\x7d"
  | .moveResourceException message => message
  | .doesNotExist model => s!"{model} matching query does not exist."
  | .multipleObjectsReturned model => s!"get() returned more than one {model}"
  | .databaseError message => message
  | .attributeError message => message
  | .divisionByZero => "[<class 'decimal.DivisionByZero'>]"
  | .invalidOperation => "[<class 'decimal.DivisionUndefined'>]"
  | .raised message => message

/-- The class name Python prints for an exception of the model. -/
def Error.className : Error → String
  | .transitionNotAllowed .. => "django_fsm.TransitionNotAllowed"
  | .validationError _ => "django.core.exceptions.ValidationError"
  | .fieldValidationError .. => "rest_framework.exceptions.ValidationError"
  | .moveResourceException _ => "MoveResourceException"
  | .doesNotExist _ => "DoesNotExist"
  | .multipleObjectsReturned _ => "MultipleObjectsReturned"
  | .databaseError _ => "django.db.utils.DatabaseError"
  | .attributeError _ => "AttributeError"
  | .divisionByZero => "decimal.DivisionByZero"
  | .invalidOperation => "decimal.InvalidOperation"
  | .raised _ => "Exception"

/-- `traceback.format_exc()` in an `except` block: the traceback header, then the
exception's class and message. -/
def Error.formatExc (e : Error) : String :=
  "Traceback (most recent call last):\n" ++ e.className ++ ": " ++ e.message ++ "\n"

/-- Raise the exception of a failed pure computation. -/
def ofExcept {σ α : Type} : Except Error α → EStateM Error σ α
  | .ok a => pure a
  | .error e => throw e

@[simp] theorem except_pure {ε α : Type} (a : α) : (pure a : Except ε α) = .ok a := rfl

@[simp] theorem except_ok_bind {ε α β : Type} (a : α) (f : α → Except ε β) :
    (Except.ok a >>= f) = f a := rfl

@[simp] theorem except_error_bind {ε α β : Type} (e : ε) (f : α → Except ε β) :
    (Except.error e >>= f) = .error e := rfl

theorem except_bind_eq_ok {ε α β : Type} {x : Except ε α} {f : α → Except ε β} {b : β} :
    (x >>= f) = .ok b ↔ ∃ a, x = .ok a ∧ f a = .ok b := by
  cases x <;> simp

/-- A loop of checks passes exactly when each check passes. -/
theorem except_forM_eq_ok {ε α : Type} {l : List α} {f : α → Except ε Unit} :
    l.forM f = .ok () ↔ ∀ a ∈ l, f a = .ok () := by
  induction l with
  | nil => exact iff_of_true rfl (fun _ h => nomatch h)
  | cons a l ih =>
    rw [List.forM_cons']
    cases h : f a with
    | error e => exact iff_of_false (fun h' => Except.noConfusion h') fun h' =>
        Except.noConfusion (h.symm.trans (h' a (List.mem_cons_self a l)))
    | ok u => cases u; simp [h, ih]

/-- A value that must be present: `if not x: raise e`. -/
def orRaise {α : Type} : Option α → Error → Except Error α
  | some a, _ => .ok a
  | none, e => .error e

@[simp] theorem orRaise_eq_ok {α : Type} {o : Option α} {e : Error} {a : α} :
    orRaise o e = .ok a ↔ o = some a := by
  cases o <;> simp [orRaise]

@[simp] theorem get_apply {ε σ : Type} (s : σ) : (get : EStateM ε σ σ) s = .ok s s := rfl

@[simp] theorem set_apply {ε σ : Type} (s s' : σ) :
    (set s' : EStateM ε σ PUnit) s = .ok ⟨⟩ s' := rfl

@[simp] theorem ofExcept_ok_apply {σ α : Type} (a : α) (s : σ) :
    (ofExcept (.ok a) : EStateM Error σ α) s = .ok a s := rfl

@[simp] theorem ofExcept_error_apply {σ α : Type} (e : Error) (s : σ) :
    (ofExcept (.error e) : EStateM Error σ α) s = .error e s := rfl

/-- `transaction.atomic`: when the block raises, the state it started from is restored. -/
def atomic {σ α : Type} (x : EStateM Error σ α) : EStateM Error σ α := fun s =>
  match x s with
  | .ok a s' => .ok a s'
  | .error e _ => .error e s

theorem atomic_of_ok {σ α : Type} {x : EStateM Error σ α} {s s' : σ} {a : α}
    (h : x s = .ok a s') : atomic x s = .ok a s' := by
  simp [atomic, h]

theorem atomic_of_error {σ α : Type} {x : EStateM Error σ α} {s s' : σ} {e : Error}
    (h : x s = .error e s') : atomic x s = .error e s := by
  simp [atomic, h]

theorem bind_apply {ε σ α β : Type} (x : EStateM ε σ α) (f : α → EStateM ε σ β) (s : σ) :
    (x >>= f) s = match x s with
      | .ok a s' => f a s'
      | .error e s' => .error e s' := rfl

theorem bind_of_ok {ε σ α β : Type} {x : EStateM ε σ α} {f : α → EStateM ε σ β} {s s' : σ}
    {a : α} (h : x s = .ok a s') : (x >>= f) s = f a s' := by
  rw [bind_apply, h]

theorem bind_eq_ok {ε σ α β : Type} {x : EStateM ε σ α} {f : α → EStateM ε σ β} {s s' : σ}
    {b : β} : (x >>= f) s = .ok b s' ↔ ∃ a s₁, x s = .ok a s₁ ∧ f a s₁ = .ok b s' := by
  rw [bind_apply]
  cases x s with
  | ok a s₁ => exact ⟨fun h => ⟨a, s₁, rfl, h⟩, fun ⟨_, _, hx, hf⟩ => by cases hx; exact hf⟩
  | error e s₁ => simp

theorem bind_eq_error {ε σ α β : Type} {x : EStateM ε σ α} {f : α → EStateM ε σ β} {s s' : σ}
    {e : ε} (h : (x >>= f) s = .error e s') :
    x s = .error e s' ∨ ∃ a s₁, x s = .ok a s₁ ∧ f a s₁ = .error e s' := by
  rw [bind_apply] at h
  cases hx : x s with
  | ok a s₁ => exact .inr ⟨a, s₁, rfl, by rwa [hx] at h⟩
  | error e₁ s₁ => rw [hx] at h; cases h; exact .inl rfl

end Waldur
