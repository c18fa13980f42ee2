/-
# Offering attributes

`validate_attributes` checks the attributes of an offering against the attributes its
category defines. It first refuses a request that leaves out a required attribute, listing
every missing key in sorted order. It then walks the category's attributes: one given no
value, or `None`, receives the attribute's default when there is one; any other value is
passed, with the keys of the attribute's options, to the validator of the attribute's type.
The dictionary is changed in place. This module describes the outcome for every request:
when it is accepted, and what it then holds. A required attribute sent as `None` counts as
given, and a default is stored without being validated. The validators of
`attribute_types` are outside the source and are a parameter; attribute values are of any
type `V`, with `none` for `None`.
-/

import Mathlib
import Waldur.Core.Table
import Waldur.Core.Program

namespace Waldur

/-- `Section`: its key and the category it belongs to. -/
structure Section where
  key : String
  category : Nat
  deriving DecidableEq, Repr

/-- The columns of `Attribute` that `validate_attributes` reads; `sectionKey` is the key of
its `section`. -/
structure Attribute (V : Type) where
  key : String
  sectionKey : String
  type : String
  required : Bool
  default : Option V

/-- `AttributeOption`: a key allowed for an attribute; `attributeKey` is the key of its
`attribute`. -/
structure AttributeOption where
  id : Nat
  attributeKey : String
  key : String
  deriving DecidableEq, Repr

instance : Row Section String := ⟨Section.key⟩
instance {V : Type} : Row (Attribute V) String := ⟨Attribute.key⟩
instance : Row AttributeOption Nat := ⟨AttributeOption.id⟩

/-- The catalogue tables `validate_attributes` reads. -/
structure Catalog (V : Type) where
  sections : Table Section
  attributes : Table (Attribute V)
  attributeOptions : Table AttributeOption

section Dictionary

variable {V : Type}

/-- `attributes.get(key)`: the value under the first entry of `key`, `None` when there is
none. -/
def jsonGet : List (String × Option V) → String → Option V
  | [], _ => none
  | (k, v) :: rest, key => if k = key then v else jsonGet rest key

/-- `attributes[key] = value`: the entry of `key` is rewritten in place, or added at the end. -/
def dictSet : List (String × Option V) → String → Option V → List (String × Option V)
  | [], key, value => [(key, value)]
  | (k, v) :: rest, key, value =>
      if k = key then (key, value) :: rest else (k, v) :: dictSet rest key value

@[simp] theorem jsonGet_dictSet (d : List (String × Option V)) (key : String) (value : Option V)
    (e : String) : jsonGet (dictSet d key value) e = if key = e then value else jsonGet d e := by
  induction d with
  | nil => simp [dictSet, jsonGet]
  | cons kv rest ih =>
    obtain ⟨k, v⟩ := kv
    by_cases hk : k = key <;> by_cases he : k = e
    · subst hk he; simp [dictSet, jsonGet]
    · subst hk; simp [dictSet, jsonGet, he]
    · subst he; simp [dictSet, jsonGet, hk, Ne.symm hk]
    · simp [dictSet, jsonGet, hk, he, ih]

end Dictionary

variable {V : Type} (validatorFor : String → Option (V → List String → Except String Unit))
  (c : Catalog V)

/-- `Attribute.objects.filter(section__category=category)`. -/
def categoryAttributes (category : Nat) : List (Attribute V) :=
  c.attributes.rows.filter fun a => (c.sections.get? a.sectionKey).any (·.category == category)

/-- `list(attribute.options.values_list('key', flat=True))`. -/
def optionKeys (attributeKey : String) : List String :=
  (c.attributeOptions.rows.filter (·.attributeKey == attributeKey)).map (·.key)

/-- `set(required_attributes) - set(attributes.keys())`, as the keys of the category's
required attributes that the request leaves out. -/
def missingAttributes (attributes : List (Attribute V)) (given : List (String × Option V)) :
    List String :=
  ((attributes.filter (·.required)).map (·.key)).filter fun key =>
    !(given.map Prod.fst).contains key

/-- The message listing the missing keys, sorted. -/
def missingAttributesMessage (missing : List String) : String :=
  "These attributes are required: " ++
    ", ".intercalate (missing.mergeSort fun a b => decide (a ≤ b))

/-- The body of the loop of `validate_attributes` for one attribute. -/
def validateAttribute (attr : Attribute V) : EStateM Error (List (String × Option V)) Unit := do
  let attributes ← get
  match jsonGet attributes attr.key with
  | none =>
      if let some default := attr.default then
        set (dictSet attributes attr.key (some default))
  | some value =>
      match validatorFor attr.type with
      | none => pure ()
      | some validate =>
          match validate value (optionKeys c attr.key) with
          | .ok () => pure ()
          | .error message => throw (.fieldValidationError attr.key message)

/-- `validate_attributes(attributes, category)`; the state is the `attributes` dictionary. -/
def validateAttributes (category : Nat) : EStateM Error (List (String × Option V)) Unit := do
  let attributes ← get
  let categoryAttributes := categoryAttributes c category
  let missing := missingAttributes categoryAttributes attributes
  if !missing.isEmpty then
    throw (.fieldValidationError "attributes" (missingAttributesMessage missing))
  categoryAttributes.forM (validateAttribute validatorFor c)

/-! ## What the loop does -/

/-- The validator of the attribute's type accepts the value the request gives it, if any. -/
def Accepts (attributes : List (String × Option V)) (attr : Attribute V) : Prop :=
  ∀ value, jsonGet attributes attr.key = some value → ∀ validate,
    validatorFor attr.type = some validate → validate value (optionKeys c attr.key) = .ok ()

/-- The message of the validator that refuses the attribute's value, if one does. -/
def rejection (attributes : List (String × Option V)) (attr : Attribute V) : Option String :=
  match jsonGet attributes attr.key, validatorFor attr.type with
  | some value, some validate =>
      match validate value (optionKeys c attr.key) with
      | .ok () => none
      | .error message => some message
  | _, _ => none

/-- The dictionary after one pass: the default filled in when the attribute has no value. -/
def fillDefault (attributes : List (String × Option V)) (attr : Attribute V) :
    List (String × Option V) :=
  match jsonGet attributes attr.key, attr.default with
  | none, some default => dictSet attributes attr.key (some default)
  | _, _ => attributes

/-- Every required attribute of the category is a key of the request, whatever its value. -/
def RequiredGiven (category : Nat) (attributes : List (String × Option V)) : Prop :=
  ∀ a ∈ categoryAttributes c category, a.required → a.key ∈ attributes.map Prod.fst

variable {validatorFor c}

theorem missingAttributes_eq_nil_iff {category : Nat} {attributes : List (String × Option V)} :
    missingAttributes (categoryAttributes c category) attributes = [] ↔
      RequiredGiven c category attributes := by
  simp only [missingAttributes, RequiredGiven, List.filter_eq_nil_iff, List.mem_map,
    List.mem_filter, List.elem_eq_mem, Bool.not_eq_true', decide_eq_false_iff_not, not_not]
  exact ⟨fun h a ha hr => h _ ⟨a, ⟨ha, hr⟩, rfl⟩,
    fun h _ ⟨a, ⟨ha, hr⟩, hk⟩ => hk ▸ h a ha hr⟩

theorem categoryAttributes_keys_nodup (category : Nat) :
    ((categoryAttributes c category).map (·.key)).Nodup :=
  c.attributes.keys_nodup.sublist ((List.filter_sublist _).map _)

theorem rejection_eq_none_iff {attributes : List (String × Option V)} {attr : Attribute V} :
    rejection validatorFor c attributes attr = none ↔ Accepts validatorFor c attributes attr := by
  unfold rejection Accepts
  cases jsonGet attributes attr.key with
  | none => simp
  | some value =>
    cases validatorFor attr.type with
    | none => simp
    | some validate => cases h : validate value (optionKeys c attr.key) <;> simp [h]

theorem validateAttribute_apply (attr : Attribute V) (d : List (String × Option V)) :
    validateAttribute validatorFor c attr d =
      match rejection validatorFor c d attr with
      | none => .ok () (fillDefault d attr)
      | some message => .error (.fieldValidationError attr.key message) d := by
  simp only [validateAttribute, rejection, fillDefault, bind_apply, get_apply]
  cases jsonGet d attr.key with
  | none => cases attr.default <;> rfl
  | some value =>
    cases validatorFor attr.type with
    | none => rfl
    | some validate =>
      cases h : validate value (optionKeys c attr.key) <;> simp only [h] <;> rfl

theorem jsonGet_fillDefault (d : List (String × Option V)) (attr : Attribute V) (e : String) :
    jsonGet (fillDefault d attr) e =
      if attr.key = e then (jsonGet d e).or attr.default else jsonGet d e := by
  unfold fillDefault
  by_cases h : attr.key = e
  · subst h
    cases hv : jsonGet d attr.key <;> cases attr.default <;> simp [hv]
  · cases jsonGet d attr.key <;> cases attr.default <;> simp [h]

theorem rejection_congr {d d' : List (String × Option V)} {attr : Attribute V}
    (h : jsonGet d attr.key = jsonGet d' attr.key) :
    rejection validatorFor c d attr = rejection validatorFor c d' attr := by
  unfold rejection
  rw [h]

/-- Over attributes of distinct keys, the loop either accepts every value and fills in the
defaults, or stops at an attribute whose value is refused, with an error naming its key. -/
theorem forM_validateAttribute (attrs : List (Attribute V)) (hkeys : (attrs.map (·.key)).Nodup)
    (d : List (String × Option V)) :
    (attrs.forM (validateAttribute validatorFor c) d = .ok () (attrs.foldl fillDefault d) ∧
      ∀ a ∈ attrs, rejection validatorFor c d a = none) ∨
    ∃ a ∈ attrs, ∃ message, rejection validatorFor c d a = some message ∧ ∃ d',
      attrs.forM (validateAttribute validatorFor c) d =
        .error (.fieldValidationError a.key message) d' := by
  induction attrs generalizing d with
  | nil => exact .inl ⟨rfl, fun _ h => nomatch h⟩
  | cons b bs ih =>
    obtain ⟨hb, hbs⟩ := List.nodup_cons.mp hkeys
    have hsame : ∀ a ∈ bs, rejection validatorFor c (fillDefault d b) a =
        rejection validatorFor c d a := fun a ha => rejection_congr (by
      rw [jsonGet_fillDefault, if_neg]
      exact fun h => hb (List.mem_map.mpr ⟨a, ha, h.symm⟩))
    rw [List.forM_cons', bind_apply, validateAttribute_apply]
    cases hr : rejection validatorFor c d b with
    | some message =>
      exact .inr ⟨b, List.mem_cons_self b bs, message, hr, d, rfl⟩
    | none =>
      rcases ih hbs (fillDefault d b) with ⟨hok, hacc⟩ | ⟨a, ha, message, hra, d', herr⟩
      · refine .inl ⟨hok, fun a ha => ?_⟩
        rcases List.mem_cons.mp ha with rfl | ha
        · exact hr
        · exact (hsame a ha).symm.trans (hacc a ha)
      · exact .inr ⟨a, List.mem_cons_of_mem b ha, message, (hsame a ha).symm.trans hra, d',
          herr⟩

/-- After the loop over attributes of distinct keys, a key holds its value, or the default of
its attribute when it had none. -/
theorem jsonGet_foldl_fillDefault (attrs : List (Attribute V))
    (hkeys : (attrs.map (·.key)).Nodup) (d : List (String × Option V)) (e : String) :
    jsonGet (attrs.foldl fillDefault d) e =
      (jsonGet d e).or ((attrs.find? (·.key == e)).bind (·.default)) := by
  induction attrs generalizing d with
  | nil => simp
  | cons b bs ih =>
    obtain ⟨hb, hbs⟩ := List.nodup_cons.mp hkeys
    rw [List.foldl_cons, ih hbs, jsonGet_fillDefault, List.find?_cons]
    by_cases h : b.key = e
    · have hnone : bs.find? (·.key == e) = none := List.find?_eq_none.mpr fun a ha hae =>
        hb (List.mem_map.mpr ⟨a, ha, (beq_iff_eq.mp hae).trans h.symm⟩)
      simp [h, hnone]
    · have hne : (b.key == e) = false := by simpa using h
      simp [h, hne]

/-- The outcome of `validate_attributes` for every request. It goes through exactly when every
required attribute of the category is given, with any value, `None` included, and the
validator of every attribute given a value accepts it; each key then holds its value, or
the default of its attribute when it had none, defaults being stored unvalidated. It
raises when a required attribute is left out, with the sorted missing keys and the
dictionary untouched, or else when a validator refuses a value, with an error under that
attribute's key. -/
theorem validate_attributes_outcome (category : Nat) (attributes : List (String × Option V)) :
    match validateAttributes validatorFor c category attributes with
    | .ok () attributes' =>
        RequiredGiven c category attributes ∧
        (∀ a ∈ categoryAttributes c category, Accepts validatorFor c attributes a) ∧
        ∀ e, jsonGet attributes' e = (jsonGet attributes e).or
          (((categoryAttributes c category).find? (·.key == e)).bind (·.default))
    | .error err attributes' =>
        (¬RequiredGiven c category attributes ∧ attributes' = attributes ∧
          err = .fieldValidationError "attributes" (missingAttributesMessage
            (missingAttributes (categoryAttributes c category) attributes))) ∨
        (RequiredGiven c category attributes ∧ ∃ a ∈ categoryAttributes c category,
          ¬Accepts validatorFor c attributes a ∧ ∃ message,
            err = .fieldValidationError a.key message) := by
  simp only [validateAttributes, bind_apply, get_apply]
  by_cases hmiss : missingAttributes (categoryAttributes c category) attributes = []
  · have hgiven := missingAttributes_eq_nil_iff.mp hmiss
    simp only [hmiss, List.isEmpty_nil, Bool.not_true, Bool.false_eq_true, if_false, pure_bind]
    rcases forM_validateAttribute _ (categoryAttributes_keys_nodup category) attributes with
      ⟨hok, hacc⟩ | ⟨a, ha, message, hra, d', herr⟩
    · rw [hok]
      exact ⟨hgiven, fun a ha => rejection_eq_none_iff.mp (hacc a ha),
        jsonGet_foldl_fillDefault _ (categoryAttributes_keys_nodup category) attributes⟩
    · rw [herr]
      refine .inr ⟨hgiven, a, ha, fun hacc => ?_, message, rfl⟩
      rw [rejection_eq_none_iff.mpr hacc] at hra
      cases hra
  · have hmissing : (!(missingAttributes (categoryAttributes c category) attributes).isEmpty) =
        true := by simpa [List.isEmpty_iff] using hmiss
    simp only [hmissing, if_true]
    exact .inl ⟨mt missingAttributes_eq_nil_iff.mpr hmiss, rfl, rfl⟩

end Waldur
