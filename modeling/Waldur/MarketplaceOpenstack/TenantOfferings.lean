/-
# The offerings of a tenant

When an OpenStack tenant moves from CREATING to OK, `create_offering_from_tenant` (in
`marketplace_openstack/handlers.py`) creates a private offering for the tenant's instances
and one for its volumes. Both are scoped to the tenant's service settings and are children of
the tenant's own offering. `synchronize_tenant_name` renames them when the tenant is renamed,
and `archive_offering` archives every offering of a tenant's service settings when those are
deleted.

`archive_offering` writes the state with a bulk `update`, past the `archive` transition of
`Offering`; the two agree, since `archive` starts from any state. Over any sequence of these
handlers, in any order and whichever of them raise, every offering they add is private to a
project and scoped to the settings of a tenant, and no archived offering becomes live again.
The settings flag, the plugin type names, `OpenStackTenantConfig.service_name`, the tenant's
field tracker and the helpers of `marketplace_openstack/utils.py` are not in the source and
are parameters or fields.
-/

import Waldur.Marketplace.Move

namespace Waldur.TenantOfferings

/-- The content type of `openstack.Tenant`. -/
def tenantContentType : String := "openstack.tenant"

/-- `core_models.StateMixin.States`, as `get_resource_state` lists them. -/
inductive CoreState
  | creationScheduled | creating | updateScheduled | updating | deletionScheduled | deleting
  | ok | erred
  deriving DecidableEq, Repr

/-- `openstack.Tenant`, with the columns the handlers read. -/
structure Tenant where
  id : Nat
  project : Nat
  deriving DecidableEq, Repr

/-- The tenant as the target of a generic foreign key. -/
def Tenant.ref (tenant : Tenant) : ScopeRef := ⟨tenantContentType, tenant.id⟩

/-- The settings as the target of a generic foreign key. -/
def settingsRef (settings : ServiceSettings) : ScopeRef :=
  ⟨serviceSettingsContentType, settings.id⟩

/-- The tables the handlers read and write. -/
structure World where
  projects : Table Project
  resources : Table Resource
  settings : Table ServiceSettings
  offerings : Table Offering

/-- The arguments of a tenant's `post_save` signal, with what its field tracker says. -/
structure TenantSaved where
  tenant : Tenant
  created : Bool
  /-- `instance.tracker.has_changed('state')`. -/
  stateChanged : Bool
  /-- `instance.tracker.previous('state')`. -/
  previousState : CoreState
  state : CoreState
  /-- `instance.tracker.has_changed('name')`. -/
  nameChanged : Bool

/-- What the handlers read outside the source: the setting
`AUTOMATICALLY_CREATE_PRIVATE_OFFERING`, `OpenStackTenantConfig.service_name`,
`INSTANCE_TYPE`, `VOLUME_TYPE`, and the helpers of `marketplace_openstack/utils.py`;
`none` from `get_category_and_name_for_offering_type` stands for `ObjectDoesNotExist`. -/
structure Config where
  automaticallyCreatePrivateOffering : Bool
  tenantServiceName : String
  instanceType : String
  volumeType : String
  getCategoryAndNameForOfferingType : String → ServiceSettings → Option (Nat × String)
  getOfferingNameForInstance : Tenant → String
  getOfferingNameForVolume : Tenant → String

/-- `Model.objects.get(...)` over the rows its filter keeps: `none` stands for
`ObjectDoesNotExist`, which the handlers catch. -/
def getOne {α : Type} (model : String) : List α → Except Error (Option α)
  | [] => .ok none
  | [r] => .ok (some r)
  | _ => .error (.multipleObjectsReturned model)

theorem mem_of_getOne_eq_ok {α : Type} {model : String} {l : List α} {r : α}
    (h : getOne model l = .ok (some r)) : r ∈ l := by
  match l, h with
  | [_], rfl => exact List.mem_singleton_self r

/-- The world a call leaves, whether it returns or raises. -/
def after {α : Type} : EStateM.Result Error World α → World
  | .ok _ w => w
  | .error _ w => w

variable (cfg : Config)

/-- `service_settings.type == OpenStackTenantConfig.service_name and
service_settings.content_type == ContentType.objects.get_for_model(Tenant)`. -/
def isTenantSettings (settings : ServiceSettings) : Bool :=
  settings.type == cfg.tenantServiceName &&
    settings.scope.map (·.contentType) == some tenantContentType

/-- The offering `create_offerings_for_volume_and_instance` creates for one plugin type under
`id`: not shared and not billable, scoped to the settings, a child of the tenant's offering
whose state it copies, in the tenant's project and organization. -/
def privateOffering (id : Nat) (offeringType name : String) (category : Nat)
    (settings : ServiceSettings) (parent : Offering) (project : Project) : Offering :=
  ⟨id, name, offeringType, false, false, some project.customer, some project.id,
    some (settingsRef settings), category, some parent.id, parent.state⟩

/-- One pass of the loop over `(INSTANCE_TYPE, VOLUME_TYPE)`: a type without a category is
skipped, else its offering is created; `tenant.project.customer` is read through the
tenant's project. -/
def createPrivateOffering (tenant : Tenant) (settings : ServiceSettings) (parent : Offering)
    (offeringType : String) : EStateM Error World Unit :=
  match cfg.getCategoryAndNameForOfferingType offeringType settings with
  | none => pure ()
  | some (category, name) => do
      let w ← get
      let project ← ofExcept (w.projects.fetch tenant.project "Project")
      let offering :=
        privateOffering w.offerings.nextKey offeringType name category settings parent project
      set { w with offerings := w.offerings.insert offering (Table.nextKey_not_mem _) }

/-- `ServiceSettings.objects.get(scope=tenant, type=OpenStackTenantConfig.service_name)`,
before `get` picks the one row. -/
def tenantSettings (w : World) (tenant : Tenant) : List ServiceSettings :=
  w.settings.rows.filter fun settings =>
    settings.scope == some tenant.ref && settings.type == cfg.tenantServiceName

/-- `create_offerings_for_volume_and_instance`. -/
def createOfferingsForVolumeAndInstance (tenant : Tenant) : EStateM Error World Unit := do
  unless cfg.automaticallyCreatePrivateOffering do return
  let w ← get
  let some resource ← ofExcept (getOne "Resource"
    (w.resources.rows.filter (·.scope == some tenant.ref))) | return
  let some settings ← ofExcept (getOne "ServiceSettings" (tenantSettings cfg w tenant))
    | return
  let parent ← ofExcept (w.offerings.fetch resource.offering "Offering")
  [cfg.instanceType, cfg.volumeType].forM (createPrivateOffering cfg tenant settings parent)

/-- `create_offering_from_tenant`: a saved tenant that has just moved from CREATING to OK
gets its offerings. -/
def createOfferingFromTenant (saved : TenantSaved) : EStateM Error World Unit := do
  if saved.created then return
  unless saved.stateChanged do return
  if saved.previousState != .creating then return
  if saved.state != .ok then return
  createOfferingsForVolumeAndInstance cfg saved.tenant

/-- One of the two loops of `synchronize_tenant_name`: every offering of the settings of one
plugin type, as the queryset reads them when the loop starts, renamed and saved with
`update_fields=['name']`. -/
def renameOfferings (settings : ServiceSettings) (offeringType name : String) :
    EStateM Error World Unit := do
  let w ← get
  (w.offerings.rows.filter fun o =>
      o.scope == some (settingsRef settings) && o.type == offeringType).forM fun o => do
    let w ← get
    let offerings ← ofExcept (w.offerings.saveFields o.id (fun o => { o with name }) fun _ => rfl)
    set { w with offerings }

/-- `synchronize_tenant_name`: the settings of the tenant are read without their type. -/
def synchronizeTenantName (saved : TenantSaved) : EStateM Error World Unit := do
  unless saved.nameChanged do return
  let w ← get
  (w.settings.rows.filter (·.scope == some saved.tenant.ref)).forM fun settings => do
    renameOfferings settings cfg.instanceType (cfg.getOfferingNameForInstance saved.tenant)
    renameOfferings settings cfg.volumeType (cfg.getOfferingNameForVolume saved.tenant)

/-- The rewrite of `update(state=Offering.States.ARCHIVED)`. -/
def setArchived (o : Offering) : Offering := { o with state := .archived }

/-- `archive_offering`, run when service settings are deleted. -/
def archiveOffering (settings : ServiceSettings) : EStateM Error World Unit := do
  if isTenantSettings cfg settings then
    modify fun w =>
      let offerings := w.offerings.updateWhere (·.scope == some (settingsRef settings))
        setArchived fun _ => rfl
      { w with offerings }

/-- `offering.archive()` then `offering.save()`, on the row as the queryset read it. -/
def archiveAndSave (o : Offering) : EStateM Error World Unit := do
  let state ← ofExcept (Offering.archive o.state)
  modify fun w => { w with offerings := w.offerings.put { o with state } }

/-- What the bulk update stands for: each offering of the settings, as the queryset reads
them, moved by its `archive` transition and saved. -/
def archiveEachOffering (settings : ServiceSettings) : EStateM Error World Unit := do
  if isTenantSettings cfg settings then
    let w ← get
    (w.offerings.rows.filter (·.scope == some (settingsRef settings))).forM archiveAndSave

/-- A call of one of the handlers, on the arguments of its signal. -/
inductive HandlerCall
  | createOfferingFromTenant (saved : TenantSaved)
  | synchronizeTenantName (saved : TenantSaved)
  | archiveOffering (settings : ServiceSettings)

/-- The handler a call runs. -/
def HandlerCall.run : HandlerCall → EStateM Error World Unit
  | .createOfferingFromTenant saved => TenantOfferings.createOfferingFromTenant cfg saved
  | .synchronizeTenantName saved => TenantOfferings.synchronizeTenantName cfg saved
  | .archiveOffering settings => TenantOfferings.archiveOffering cfg settings

/-- The world after the calls in turn; a call that raises leaves the rows it wrote. -/
def runHandlers : List HandlerCall → World → World
  | [], w => w
  | c :: cs, w => runHandlers cs (after (c.run cfg w))

/-! ## The bulk update and the transition -/

theorem table_eq_of_rows_eq {t t' : Table Offering} (h : t.rows = t'.rows) : t = t' := by
  cases t; cases t'; cases h; rfl

/-- Saving archived copies of distinct rows, one after another, archives exactly those rows. -/
theorem rows_foldl_put_setArchived (L : List Offering) (t : Table Offering)
    (hL : ∀ o ∈ L, o ∈ t.rows) (hnodup : (L.map (·.id)).Nodup) :
    (L.foldl (fun t o => t.put (setArchived o)) t).rows =
      t.rows.map fun r => if r ∈ L then setArchived r else r := by
  induction L generalizing t with
  | nil => simp
  | cons o L ih =>
    obtain ⟨hoL, hnodup⟩ := List.nodup_cons.mp hnodup
    have ho := hL o (List.mem_cons_self o L)
    have hkey : Row.pk (setArchived o) ∈ t.keys := List.mem_map_of_mem (·.id) ho
    have hput : (t.put (setArchived o)).rows =
        t.rows.map fun r => if r.id = o.id then setArchived o else r :=
      Table.rows_put_of_mem hkey
    have hL' : ∀ o' ∈ L, o' ∈ (t.put (setArchived o)).rows := fun o' h' =>
      Table.mem_rows_put.mpr (.inr ⟨hL o' (List.mem_cons_of_mem o h'), fun hid =>
        hoL (List.mem_map.mpr ⟨o', h', hid⟩)⟩)
    rw [List.foldl_cons, ih _ hL' hnodup, hput, List.map_map]
    refine List.map_congr_left fun r hr => ?_
    by_cases hid : r.id = o.id
    · obtain rfl := Table.eq_of_mem_of_pk_eq hr ho hid
      by_cases hmem : r ∈ L <;> simp [hmem, setArchived]
    · have hne : r ≠ o := fun h => hid (h ▸ rfl)
      simp [hid, hne]

theorem forM_archiveAndSave_apply (L : List Offering) (w : World) :
    L.forM archiveAndSave w =
      .ok () { w with offerings := L.foldl (fun t o => t.put (setArchived o)) w.offerings } := by
  induction L generalizing w with
  | nil => rfl
  | cons o L ih => exact ih _

/-- `archive_offering` archives with one `update` what the `archive` transition of each
offering of the settings, saved one after another, would archive. -/
theorem archive_offering_agrees_with_archive_transition (settings : ServiceSettings) (w : World) :
    archiveOffering cfg settings w = archiveEachOffering cfg settings w := by
  unfold archiveOffering archiveEachOffering
  by_cases htenant : isTenantSettings cfg settings
  · simp only [htenant, if_true, bind_apply, get_apply]
    show EStateM.Result.ok () _ = _
    rw [forM_archiveAndSave_apply]
    have hrows := rows_foldl_put_setArchived
      (w.offerings.rows.filter (·.scope == some (settingsRef settings))) w.offerings
      (fun o h => (List.mem_filter.mp h).1)
      (w.offerings.keys_nodup.sublist ((List.filter_sublist _).map _))
    refine congrArg (EStateM.Result.ok ()) (congrArg (fun t => { w with offerings := t })
      (table_eq_of_rows_eq (hrows.trans ?_).symm))
    refine List.map_congr_left fun r hr => ?_
    simp [hr]
  · simp [htenant]

/-! ## What the handlers may change -/

/-- The columns of an offering that the handlers never change: all but its name and state. -/
def frame (o : Offering) : Offering := { o with name := "", state := .draft }

/-- The only changes the handlers make to an offering they find: a new name, or the
archived state. -/
def RenamedOrArchived (o o' : Offering) : Prop :=
  frame o' = frame o ∧ (o'.state = o.state ∨ o'.state = .archived)

theorem RenamedOrArchived.refl (o : Offering) : RenamedOrArchived o o := ⟨rfl, .inl rfl⟩

theorem RenamedOrArchived.trans {o o' o'' : Offering} (h : RenamedOrArchived o o')
    (h' : RenamedOrArchived o' o'') : RenamedOrArchived o o'' := by
  refine ⟨h'.1.trans h.1, ?_⟩
  rcases h'.2 with hs | hs
  · exact hs ▸ h.2
  · exact .inr hs

theorem RenamedOrArchived.id_eq {o o' : Offering} (h : RenamedOrArchived o o') :
    o'.id = o.id :=
  congrArg (·.id) h.1

/-- An offering the handlers add: not shared and not billable, of one of the two plugin
types, a child of another offering, in an existing project and its organization, and scoped
to existing settings of a tenant. -/
def PrivateOffering (w : World) (o : Offering) : Prop :=
  o.shared = false ∧ o.billable = false ∧
    (o.type = cfg.instanceType ∨ o.type = cfg.volumeType) ∧ o.parent.isSome ∧
    (∃ p ∈ w.projects.rows, o.project = some p.id ∧ o.customer = some p.customer) ∧
    ∃ settings ∈ w.settings.rows, isTenantSettings cfg settings ∧
      o.scope = some (settingsRef settings)

theorem PrivateOffering.of_frame {w : World} {o o' : Offering}
    (h : PrivateOffering cfg w o) (hframe : frame o' = frame o) : PrivateOffering cfg w o' := by
  obtain ⟨_, _, _, _, _, _, _, _, _, _, _⟩ := o
  obtain ⟨_, _, _, _, _, _, _, _, _, _, _⟩ := o'
  simp only [frame, Offering.mk.injEq] at hframe
  obtain ⟨-, -, rfl, rfl, rfl, rfl, rfl, rfl, -, rfl, -⟩ := hframe
  exact h

/-- What a run of the handlers may do: the projects, resources and settings stay; every
offering stays, renamed or archived at most; every new offering is a private one. -/
structure Evolves (w w' : World) : Prop where
  projects : w'.projects = w.projects
  resources : w'.resources = w.resources
  settings : w'.settings = w.settings
  kept : ∀ o ∈ w.offerings.rows, ∃ o' ∈ w'.offerings.rows, RenamedOrArchived o o'
  added : ∀ o' ∈ w'.offerings.rows, o'.id ∉ w.offerings.keys → PrivateOffering cfg w o'

theorem Evolves.refl (w : World) : Evolves cfg w w :=
  ⟨rfl, rfl, rfl, fun o ho => ⟨o, ho, .refl o⟩,
    fun _ ho hid => absurd (List.mem_map_of_mem _ ho) hid⟩

theorem Evolves.trans {w w' w'' : World} (h : Evolves cfg w w') (h' : Evolves cfg w' w'') :
    Evolves cfg w w'' := by
  refine ⟨h'.projects.trans h.projects, h'.resources.trans h.resources,
    h'.settings.trans h.settings, fun o ho => ?_, fun o₂ ho₂ hid => ?_⟩
  · obtain ⟨o', ho', hr⟩ := h.kept o ho
    obtain ⟨o₂, ho₂, hr'⟩ := h'.kept o' ho'
    exact ⟨o₂, ho₂, hr.trans hr'⟩
  · by_cases hid' : o₂.id ∈ w'.offerings.keys
    · obtain ⟨o', ho', hkey⟩ := List.mem_map.mp hid'
      obtain ⟨o₃, ho₃, hr⟩ := h'.kept o' ho'
      have hsame : o₃ = o₂ := Table.eq_of_mem_of_pk_eq ho₃ ho₂ (hr.id_eq.trans hkey)
      exact (h.added o' ho' ((show o'.id = o₂.id from hkey) ▸ hid)).of_frame cfg
        (hsame ▸ hr.1)
    · have hnew := h'.added o₂ ho₂ hid'
      rwa [PrivateOffering, h.projects, h.settings] at hnew

/-- A rewrite of the offerings that renames or archives each row is a change the handlers
may make. -/
theorem evolves_of_rows_map {w : World} {offerings : Table Offering}
    {g : Offering → Offering} (hg : ∀ o, RenamedOrArchived o (g o))
    (h : offerings.rows = w.offerings.rows.map g) : Evolves cfg w { w with offerings } := by
  refine ⟨rfl, rfl, rfl, fun o ho => ⟨g o, h ▸ List.mem_map_of_mem g ho, hg o⟩,
    fun o' ho' hid => ?_⟩
  obtain ⟨o, ho, rfl⟩ := List.mem_map.mp (h ▸ ho')
  exact absurd ((hg o).id_eq ▸ List.mem_map_of_mem _ ho) hid

/-! ## One lemma per handler -/

/-- A program that, run from a world where `P` holds, only makes the changes `Evolves`
allows, whether it returns or raises. -/
def KeepsOn {α : Type} (P : World → Prop) (x : EStateM Error World α) : Prop :=
  ∀ w, P w → Evolves cfg w (after (x w))

section Program

variable {P : World → Prop}

theorem KeepsOn.bind {α β : Type} {x : EStateM Error World α} {f : α → EStateM Error World β}
    (hP : ∀ w w', P w → Evolves cfg w w' → P w') (hx : KeepsOn cfg P x)
    (hf : ∀ a, KeepsOn cfg P (f a)) : KeepsOn cfg P (x >>= f) := by
  intro w hw
  have hxw := hx w hw
  rw [bind_apply]
  cases hres : x w with
  | ok a w₁ =>
    rw [hres] at hxw
    exact hxw.trans cfg (hf a w₁ (hP w w₁ hw hxw))
  | error e w₁ => rwa [hres] at hxw

theorem KeepsOn.forM {α : Type} {l : List α} {f : α → EStateM Error World PUnit}
    (hP : ∀ w w', P w → Evolves cfg w w' → P w') (h : ∀ a ∈ l, KeepsOn cfg P (f a)) :
    KeepsOn cfg P (l.forM f) := by
  induction l with
  | nil => exact fun w _ => Evolves.refl cfg w
  | cons a l ih =>
    rw [List.forM_cons']
    exact KeepsOn.bind cfg hP (h a (List.mem_cons_self a l))
      fun _ => ih fun b hb => h b (List.mem_cons_of_mem a hb)

end Program

theorem pure_apply {α : Type} (a : α) (w : World) :
    (pure a : EStateM Error World α) w = .ok a w := rfl

theorem keepsOn_createPrivateOffering (tenant : Tenant) {settings : ServiceSettings}
    (parent : Offering) {offeringType : String} (htenant : isTenantSettings cfg settings)
    (htype : offeringType = cfg.instanceType ∨ offeringType = cfg.volumeType) :
    KeepsOn cfg (settings ∈ ·.settings.rows)
      (createPrivateOffering cfg tenant settings parent offeringType) := by
  intro w hw
  unfold createPrivateOffering
  cases hcat : cfg.getCategoryAndNameForOfferingType offeringType settings with
  | none => exact Evolves.refl cfg w
  | some cn =>
    obtain ⟨category, name⟩ := cn
    simp only [bind_apply, get_apply]
    cases hp : w.projects.fetch tenant.project "Project" with
    | error e => exact Evolves.refl cfg w
    | ok project =>
      have hproject := (Table.get?_eq_some_iff.mp (Table.fetch_eq_ok.mp hp)).1
      refine ⟨rfl, rfl, rfl, fun o ho => ⟨o, by simp [after, ho], .refl o⟩,
        fun o ho hid => ?_⟩
      simp only [ofExcept_ok_apply, set_apply, after, Table.rows_insert, List.mem_append,
        List.mem_singleton] at ho
      rcases ho with ho | rfl
      · exact absurd (List.mem_map_of_mem _ ho) hid
      · exact ⟨rfl, rfl, htype, rfl, ⟨project, hproject, rfl, rfl⟩,
          settings, hw, htenant, rfl⟩

theorem keepsOn_createOfferingsForVolumeAndInstance (tenant : Tenant) :
    KeepsOn cfg (fun _ => True) (createOfferingsForVolumeAndInstance cfg tenant) := by
  intro w _
  unfold createOfferingsForVolumeAndInstance
  split
  · simp only [bind_apply, get_apply, pure_apply]
    cases getOne "Resource" (w.resources.rows.filter (·.scope == some tenant.ref)) with
    | error e => exact Evolves.refl cfg w
    | ok r => ?_
    cases r with
    | none => exact Evolves.refl cfg w
    | some resource => ?_
    simp only [ofExcept_ok_apply, bind_apply]
    cases hs : getOne "ServiceSettings" (tenantSettings cfg w tenant) with
    | error e => exact Evolves.refl cfg w
    | ok r => ?_
    cases r with
    | none => exact Evolves.refl cfg w
    | some settings => ?_
    simp only [ofExcept_ok_apply, bind_apply]
    cases w.offerings.fetch resource.offering "Offering" with
    | error e => exact Evolves.refl cfg w
    | ok parent => ?_
    obtain ⟨hmem, hscope⟩ := List.mem_filter.mp (mem_of_getOne_eq_ok hs)
    have htenant : isTenantSettings cfg settings := by
      simp only [Bool.and_eq_true, beq_iff_eq] at hscope
      simp [isTenantSettings, hscope.1, hscope.2, Tenant.ref]
    have hkeeps : KeepsOn cfg (settings ∈ ·.settings.rows)
        ([cfg.instanceType, cfg.volumeType].forM
          (createPrivateOffering cfg tenant settings parent)) :=
      KeepsOn.forM cfg (fun _ _ hw h => by rwa [h.settings]) fun t ht =>
        keepsOn_createPrivateOffering cfg tenant parent htenant (by simpa using ht)
    exact hkeeps w hmem
  · exact Evolves.refl cfg w

theorem keepsOn_createOfferingFromTenant (saved : TenantSaved) :
    KeepsOn cfg (fun _ => True) (createOfferingFromTenant cfg saved) := by
  intro w hw
  unfold createOfferingFromTenant
  simp only [bind_apply, pure_apply]
  repeat' split
  all_goals first
    | exact Evolves.refl cfg w
    | exact keepsOn_createOfferingsForVolumeAndInstance cfg saved.tenant w hw

theorem renamedOrArchived_ite {o : Offering} (c : Prop) [Decidable c]
    (f : Offering → Offering) (hf : RenamedOrArchived o (f o)) :
    RenamedOrArchived o (if c then f o else o) := by
  split
  · exact hf
  · exact .refl o

theorem keepsOn_renameOfferings (settings : ServiceSettings) (offeringType name : String) :
    KeepsOn cfg (fun _ => True) (renameOfferings settings offeringType name) := by
  intro w hw
  unfold renameOfferings
  simp only [bind_apply, get_apply]
  refine KeepsOn.forM cfg (fun _ _ _ _ => trivial) (fun o _ w' _ => ?_) w hw
  simp only [bind_apply, get_apply]
  by_cases hkey : o.id ∈ w'.offerings.keys
  · simp only [Table.saveFields, hkey, if_true, ofExcept_ok_apply, set_apply, after]
    exact evolves_of_rows_map cfg (fun r => renamedOrArchived_ite (r.id = o.id)
      (fun o => { o with name }) ⟨rfl, .inl rfl⟩) rfl
  · simp only [Table.saveFields, hkey, if_false, ofExcept_error_apply, after]
    exact Evolves.refl cfg w'

theorem keepsOn_synchronizeTenantName (saved : TenantSaved) :
    KeepsOn cfg (fun _ => True) (synchronizeTenantName cfg saved) := by
  intro w hw
  unfold synchronizeTenantName
  split
  · simp only [bind_apply, pure_apply, get_apply]
    have htrue : ∀ w w' : World, True → Evolves cfg w w' → True := fun _ _ _ _ => trivial
    exact KeepsOn.forM cfg htrue (fun settings _ => KeepsOn.bind cfg htrue
      (keepsOn_renameOfferings cfg settings _ _) fun _ => keepsOn_renameOfferings cfg settings _ _)
      w hw
  · exact Evolves.refl cfg w

theorem keepsOn_archiveOffering (settings : ServiceSettings) :
    KeepsOn cfg (fun _ => True) (archiveOffering cfg settings) := by
  intro w _
  unfold archiveOffering
  split
  · exact evolves_of_rows_map cfg
      (fun r => renamedOrArchived_ite (r.scope == some (settingsRef settings)) setArchived
        ⟨rfl, .inr rfl⟩) rfl
  · exact Evolves.refl cfg w

/-! ## Every run of the handlers -/

theorem keepsOn_run (c : HandlerCall) : KeepsOn cfg (fun _ => True) (c.run cfg) := by
  cases c with
  | createOfferingFromTenant saved => exact keepsOn_createOfferingFromTenant cfg saved
  | synchronizeTenantName saved => exact keepsOn_synchronizeTenantName cfg saved
  | archiveOffering settings => exact keepsOn_archiveOffering cfg settings

theorem evolves_runHandlers :
    ∀ (calls : List HandlerCall) (w : World), Evolves cfg w (runHandlers cfg calls w)
  | [], w => Evolves.refl cfg w
  | c :: cs, w => (keepsOn_run cfg c w trivial).trans cfg (evolves_runHandlers cs _)

/-- Over any sequence of the handlers, in any order and whichever of them raise, every
offering they add is private: not shared and not billable, of one of the two plugin types,
a child of another offering, in an existing project and its organization, and scoped to
existing settings of a tenant, which `archive_offering` covers. -/
theorem tenant_handlers_add_only_private_offerings (calls : List HandlerCall) (w : World) :
    ∀ o ∈ (runHandlers cfg calls w).offerings.rows, o.id ∉ w.offerings.keys →
      PrivateOffering cfg w o :=
  (evolves_runHandlers cfg calls w).added

/-- Handlers that create private offerings, named by their plugin type, in category 1. -/
def tenantConfig : Config where
  automaticallyCreatePrivateOffering := true
  tenantServiceName := "tenant"
  instanceType := "vm"
  volumeType := "volume"
  getCategoryAndNameForOfferingType offeringType _ := some (1, offeringType)
  getOfferingNameForInstance _ := "vm"
  getOfferingNameForVolume _ := "volume"

/-- The shared offering through which tenants are ordered. -/
def cloudOffering : Offering :=
  ⟨1, "Cloud", "tenant", true, true, some 1, none, none, 1, none, .active⟩

/-- A tenant of project 1, provisioned through the shared offering, with its settings. -/
def tenantWorld : World where
  projects := ⟨[⟨1, 1, "Lab", "lab", none⟩], by decide⟩
  resources := ⟨[⟨1, 1, 1, .ok, some ⟨tenantContentType, 1⟩, none⟩], by decide⟩
  settings := ⟨[⟨1, some ⟨tenantContentType, 1⟩, "tenant"⟩], by decide⟩
  offerings := ⟨[cloudOffering], by decide⟩

/-- The tenant comes up, then its settings are deleted. -/
def tenantComesUpThenGoes : List HandlerCall :=
  [.createOfferingFromTenant ⟨⟨1, 1⟩, false, true, .creating, .ok, false⟩,
    .archiveOffering ⟨1, some ⟨tenantContentType, 1⟩, "tenant"⟩]

/-- The offering for the tenant's instances. -/
def tenantVmOffering : Offering :=
  ⟨2, "vm", "vm", false, false, some 1, some 1, some ⟨serviceSettingsContentType, 1⟩, 1, some 1,
    .archived⟩

theorem tenant_handlers_add_only_private_offerings_on_new_tenant :
    tenantVmOffering ∈
      (runHandlers tenantConfig tenantComesUpThenGoes tenantWorld).offerings.rows ∧
    tenantVmOffering.id ∉ tenantWorld.offerings.keys ∧
    PrivateOffering tenantConfig tenantWorld tenantVmOffering :=
  have hmem : tenantVmOffering ∈
      (runHandlers tenantConfig tenantComesUpThenGoes tenantWorld).offerings.rows := by decide
  have hfresh : tenantVmOffering.id ∉ tenantWorld.offerings.keys := by decide
  ⟨hmem, hfresh, tenant_handlers_add_only_private_offerings tenantConfig _ _ _ hmem hfresh⟩

/-- Over any sequence of the handlers, every offering stays, with its columns other than its
name and state unchanged, and its state unchanged or archived: an archived offering stays
archived. -/
theorem tenant_handlers_only_rename_or_archive_offerings (calls : List HandlerCall)
    (w : World) :
    ∀ o ∈ w.offerings.rows, ∃ o' ∈ (runHandlers cfg calls w).offerings.rows,
      frame o' = frame o ∧ (o'.state = o.state ∨ o'.state = .archived) :=
  (evolves_runHandlers cfg calls w).kept

theorem tenant_handlers_only_rename_or_archive_offerings_on_new_tenant :
    cloudOffering ∈ tenantWorld.offerings.rows ∧
    ∃ o' ∈ (runHandlers tenantConfig tenantComesUpThenGoes tenantWorld).offerings.rows,
      frame o' = frame cloudOffering ∧
        (o'.state = cloudOffering.state ∨ o'.state = .archived) :=
  have hmem : cloudOffering ∈ tenantWorld.offerings.rows := List.mem_singleton_self _
  ⟨hmem, tenant_handlers_only_rename_or_archive_offerings tenantConfig
    tenantComesUpThenGoes tenantWorld _ hmem⟩

end Waldur.TenantOfferings
