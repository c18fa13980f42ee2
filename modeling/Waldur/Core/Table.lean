/-
# Database tables

Every Django model the marketplace touches is stored in a relational table. A table
is modelled as its rows in insertion order, which is also the order of the `created`
column that the modelled querysets sort by. Primary keys are unique: the table carries
that fact, so a lookup by key finds the one row the database holds, and a writer that
the model does not know (a provisioning processor, another worker) cannot build a table
the database would refuse.
-/

import Mathlib.Data.List.Nodup

namespace Waldur

/-- A row type and its primary key. -/
class Row (α : Type) (κ : outParam Type) where
  pk : α → κ

/-- A database table: rows in insertion order, with pairwise distinct primary keys. -/
structure Table (α : Type) {κ : Type} [Row α κ] where
  rows : List α
  keys_nodup : (rows.map Row.pk).Nodup

namespace Table

variable {α κ : Type} [Row α κ]

instance : EmptyCollection (Table α) := ⟨⟨[], List.nodup_nil⟩⟩

/-- The primary keys of a table, in row order. -/
def keys (t : Table α) : List κ := t.rows.map Row.pk

/-- `Model.objects.get(pk=key)`; `none` stands for `DoesNotExist`. -/
def get? [DecidableEq κ] (t : Table α) (key : κ) : Option α :=
  t.rows.find? fun r => Row.pk r = key

/-- Rewrite the row whose primary key is `key` with `f`, which keeps the key. -/
def update [DecidableEq κ] (t : Table α) (key : κ) (f : α → α) (hf : ∀ r, Row.pk (f r) = Row.pk r) :
    Table α where
  rows := t.rows.map fun r => if Row.pk r = key then f r else r
  keys_nodup := by
    rw [List.map_map]
    convert t.keys_nodup using 1
    refine List.map_congr_left fun r _ => ?_
    by_cases h : Row.pk r = key <;> simp [h, hf]

/-- `queryset.filter(p).update(...)`: rewrite every row satisfying `p` with `f`, which
keeps the key. -/
def updateWhere (t : Table α) (p : α → Bool) (f : α → α) (hf : ∀ r, Row.pk (f r) = Row.pk r) :
    Table α where
  rows := t.rows.map fun r => if p r then f r else r
  keys_nodup := by
    rw [List.map_map]
    convert t.keys_nodup using 1
    refine List.map_congr_left fun r _ => ?_
    by_cases h : p r <;> simp [h, hf]

/-- The key the next insertion receives: one past every key in use (autoincrement). -/
def nextKey {β : Type} [Row β Nat] (t : Table β) : Nat := t.keys.foldr max 0 + 1

/-- Append a row whose key is not in use. -/
def insert (t : Table α) (r : α) (fresh : Row.pk r ∉ t.keys) : Table α where
  rows := t.rows ++ [r]
  keys_nodup := by
    rw [List.map_append, List.nodup_append]
    exact ⟨t.keys_nodup, List.nodup_singleton _,
      by simpa [keys, List.disjoint_singleton] using fresh⟩

/-- `Model.save()` without `update_fields`: replace the row stored under the key of `r`,
or insert `r` when there is none. -/
def put [DecidableEq κ] (t : Table α) (r : α) : Table α :=
  if h : Row.pk r ∈ t.keys then
    { rows := t.rows.map fun r₀ => if Row.pk r₀ = Row.pk r then r else r₀
      keys_nodup := by
        rw [List.map_map]
        convert t.keys_nodup using 1
        refine List.map_congr_left fun r₀ _ => ?_
        by_cases hr : Row.pk r₀ = Row.pk r <;> simp [hr] }
  else t.insert r h

/-- `queryset.filter(p).delete()`: drop every row satisfying `p`. -/
def deleteWhere (t : Table α) (p : α → Bool) : Table α where
  rows := t.rows.filter fun r => !p r
  keys_nodup := t.keys_nodup.sublist ((List.filter_sublist _).map _)

theorem le_foldr_max {l : List Nat} {k : Nat} (h : k ∈ l) : k ≤ l.foldr max 0 := by
  induction l with
  | nil => cases h
  | cons x xs ih =>
      rcases List.mem_cons.mp h with rfl | h
      · exact Nat.le_max_left _ _
      · exact (ih h).trans (Nat.le_max_right _ _)

theorem nextKey_not_mem {β : Type} [Row β Nat] (t : Table β) : t.nextKey ∉ t.keys := fun h =>
  absurd (le_foldr_max h) (by simp [nextKey])

/-- Two rows of one table with the same key are the same row. -/
theorem eq_of_mem_of_pk_eq {t : Table α} {r r' : α} (h : r ∈ t.rows) (h' : r' ∈ t.rows)
    (hpk : Row.pk r = Row.pk r') : r = r' :=
  List.inj_on_of_nodup_map t.keys_nodup h h' hpk

theorem get?_eq_some_iff [DecidableEq κ] {t : Table α} {key : κ} {r : α} :
    t.get? key = some r ↔ r ∈ t.rows ∧ Row.pk r = key := by
  constructor
  · intro h
    exact ⟨List.mem_of_find?_eq_some h, by simpa using List.find?_some h⟩
  · rintro ⟨hmem, rfl⟩
    obtain ⟨r', hfind⟩ : ∃ r', t.get? (Row.pk r) = some r' := Option.isSome_iff_exists.mp
      (List.find?_isSome.mpr ⟨r, hmem, by simp⟩)
    have hmem' := List.mem_of_find?_eq_some hfind
    have hkey : Row.pk r' = Row.pk r := by simpa using List.find?_some hfind
    rw [hfind, eq_of_mem_of_pk_eq hmem' hmem hkey]

theorem mem_keys_of_get? [DecidableEq κ] {t : Table α} {key : κ} {r : α}
    (h : t.get? key = some r) : key ∈ t.keys :=
  List.mem_map.mpr ⟨r, (get?_eq_some_iff.mp h).1, (get?_eq_some_iff.mp h).2⟩

@[simp] theorem keys_update [DecidableEq κ] (t : Table α) (key : κ) (f : α → α) hf :
    (t.update key f hf).keys = t.keys := by
  simp only [keys, update, List.map_map]
  refine List.map_congr_left fun r _ => ?_
  by_cases h : Row.pk r = key <;> simp [h, hf]

@[simp] theorem rows_insert (t : Table α) (r : α) fresh :
    (t.insert r fresh).rows = t.rows ++ [r] := rfl

theorem rows_put_of_mem [DecidableEq κ] {t : Table α} {r : α} (h : Row.pk r ∈ t.keys) :
    (t.put r).rows = t.rows.map fun r₀ => if Row.pk r₀ = Row.pk r then r else r₀ := by
  simp [put, h]

/-- After a save, the rows are the saved row and the rows with other keys. -/
theorem mem_rows_put [DecidableEq κ] {t : Table α} {r x : α} :
    x ∈ (t.put r).rows ↔ x = r ∨ x ∈ t.rows ∧ Row.pk x ≠ Row.pk r := by
  unfold put
  split
  · next h =>
    obtain ⟨r₀, hr₀, hk⟩ := List.mem_map.mp h
    simp only [List.mem_map]
    constructor
    · rintro ⟨y, hy, rfl⟩
      by_cases hyk : Row.pk y = Row.pk r
      · exact .inl (if_pos hyk)
      · exact .inr ⟨by rwa [if_neg hyk], by rwa [if_neg hyk]⟩
    · rintro (rfl | ⟨hx, hxk⟩)
      · exact ⟨r₀, hr₀, if_pos hk⟩
      · exact ⟨x, hx, if_neg hxk⟩
  · next h =>
    simp only [rows_insert, List.mem_append, List.mem_singleton]
    constructor
    · rintro (hx | rfl)
      · exact .inr ⟨hx, fun hk => h (hk ▸ List.mem_map_of_mem _ hx)⟩
      · exact .inl rfl
    · rintro (rfl | ⟨hx, -⟩)
      · exact .inr rfl
      · exact .inl hx

theorem get?_update [DecidableEq κ] (t : Table α) (key : κ) (f : α → α) hf (k : κ) :
    (t.update key f hf).get? k = if k = key then (t.get? k).map f else t.get? k := by
  have hpk : ((fun r => decide (Row.pk r = k)) ∘ fun r => if Row.pk r = key then f r else r) =
      fun r => decide (Row.pk r = k) := by
    funext r
    by_cases h : Row.pk r = key <;> simp [h, hf]
  simp only [get?, update, List.find?_map, hpk]
  cases hfind : t.rows.find? (fun r => decide (Row.pk r = k)) with
  | none => simp
  | some r =>
      have hr : Row.pk r = k := by simpa using List.find?_some hfind
      by_cases hk : k = key <;> simp [hk, hr]

/-- A table whose rows are those of `t`, each rewritten by a key-preserving `g`, finds the
rewritten row. -/
theorem get?_of_rows_eq_map [DecidableEq κ] {t t' : Table α} {g : α → α}
    (hg : ∀ r, Row.pk (g r) = Row.pk r) (h : t'.rows = t.rows.map g) (k : κ) :
    t'.get? k = (t.get? k).map g := by
  have hpk : ((fun r => decide (Row.pk r = k)) ∘ g) = fun r => decide (Row.pk r = k) :=
    funext fun r => by simp [hg]
  simp only [get?, h, List.find?_map, hpk]

theorem update_eq_updateWhere [DecidableEq κ] (t : Table α) (key : κ) (f : α → α) hf :
    t.update key f hf = t.updateWhere (fun r => decide (Row.pk r = key)) f hf := by
  simp [update, updateWhere]

/-- Successive `queryset.update` calls with one idempotent rewrite, which keeps what the
filters read, rewrite each row that any of the filters selects, once. -/
theorem rows_foldl_updateWhere {β : Type} (l : List β) (p : β → α → Bool) (f : α → α) hf
    (hidem : ∀ r, f (f r) = f r) (hp : ∀ b r, p b (f r) = p b r) (t : Table α) :
    (l.foldl (fun t b => t.updateWhere (p b) f hf) t).rows =
      t.rows.map fun r => if l.any (p · r) then f r else r := by
  induction l generalizing t with
  | nil => simp
  | cons b l ih =>
      rw [List.foldl_cons, ih]
      simp only [updateWhere, List.map_map, List.any_cons]
      refine List.map_congr_left fun r _ => ?_
      by_cases hb : p b r <;> simp [hb, hidem, hp]

end Table

theorem list_set_getElem_self {α : Type} (l : List α) (i : Nat) (h : i < l.length) :
    l.set i l[i] = l :=
  List.ext_getElem (List.length_set _ _ _) fun j _ _ => by
    rw [List.getElem_set]
    split <;> simp_all

theorem list_set_of_getElem? {α : Type} {l : List α} {i : Nat} {a : α} (h : l[i]? = some a) :
    l.set i a = l := by
  obtain ⟨hi, rfl⟩ := List.getElem?_eq_some_iff.mp h
  exact list_set_getElem_self l i hi

end Waldur
