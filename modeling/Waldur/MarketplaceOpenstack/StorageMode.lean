/-
# Tenant limits after a storage-mode switch

`synchronize_limits_when_storage_mode_is_switched` (in `marketplace_openstack/handlers.py`)
runs after an offering is saved. When the `storage_mode` plugin option of a tenant offering
switches to a new value, it imports the limits and usage of each of the offering's live
resources and registers, for each, a lambda that sends `push_tenant_limits` with
`transaction.on_commit`. The lambda reads the handler's local `serialized_resource` when it
runs: at once in autocommit mode, but only at the commit inside a transaction, when the loop
has left the last resource there. `TENANT_TYPE`, `serialize_instance`, the two import helpers
and the offering's field tracker are not in the source and are parameters or arguments.
-/

import Waldur.Marketplace.Store

namespace Waldur.StorageMode

/-- The variable of the handler's frame that its lambdas read, unbound until the loop
assigns it. -/
structure Frame (σ : Type) where
  serializedResource : Option σ

/-- A lambda: the address of the frame it was created in, and its body, which reads that
frame when it runs and returns the `push_tenant_limits` messages it sends. -/
structure Closure (σ : Type) where
  frame : Nat
  body : Frame σ → List σ

/-- `lambda: tasks.push_tenant_limits.delay(serialized_resource)`. -/
def pushTenantLimits {σ : Type} (frame : Frame σ) : List σ :=
  frame.serializedResource.toList

/-- The database, the frames of Python calls, the connection's transaction state with the
callables `on_commit` keeps, and the `push_tenant_limits` messages sent to the broker. -/
structure World (σ : Type) where
  store : Store
  frames : Nat → Frame σ
  nextFrame : Nat
  inAtomicBlock : Bool
  runOnCommit : List (Closure σ)
  sent : List σ

variable {σ : Type}

/-- Run a lambda against its frame as the frame is now. -/
def World.call (w : World σ) (c : Closure σ) : World σ :=
  { w with sent := w.sent ++ c.body (w.frames c.frame) }

/-- `transaction.on_commit(func)`: run at once in autocommit mode, else keep for the commit. -/
def onCommit (c : Closure σ) : EStateM Error (World σ) Unit := fun w =>
  if w.inAtomicBlock then .ok () { w with runOnCommit := w.runOnCommit ++ [c] }
  else .ok () (w.call c)

/-- The commit of the outermost atomic block: the kept lambdas run in registration order. -/
def World.commit (w : World σ) : World σ :=
  w.runOnCommit.foldl World.call { w with inAtomicBlock := false, runOnCommit := [] }

/-- `with transaction.atomic():` entered in autocommit mode: commit when the block returns;
when it raises, roll the database back and drop the kept lambdas. -/
def atomicBlock {α : Type} (body : EStateM Error (World σ) α) : EStateM Error (World σ) α :=
  fun w =>
    match body { w with inAtomicBlock := true } with
    | .ok a w' => .ok a w'.commit
    | .error e w' =>
        .error e { w' with store := w.store, inAtomicBlock := false, runOnCommit := w.runOnCommit }

/-- A call's frame, its variables unbound. -/
def newFrame : EStateM Error (World σ) Nat := fun w =>
  .ok w.nextFrame
    { w with nextFrame := w.nextFrame + 1, frames := Function.update w.frames w.nextFrame ⟨none⟩ }

/-- `serialized_resource = value` in the frame at `addr`. -/
def assignSerializedResource (addr : Nat) (value : σ) : EStateM Error (World σ) Unit := fun w =>
  .ok () { w with frames := Function.update w.frames addr ⟨some value⟩ }

/-- A database helper run on the world's store. -/
def onStore {α : Type} (x : EStateM Error Store α) : EStateM Error (World σ) α := fun w =>
  match x w.store with
  | .ok a s => .ok a { w with store := s }
  | .error e s => .error e { w with store := s }

/-- The arguments of the `post_save` signal: the saved offering, `created`, and what the
offering's field tracker and `plugin_options` give for the storage mode. -/
structure OfferingSaved where
  offering : Offering
  created : Bool
  /-- `offering.tracker.has_changed('plugin_options')`. -/
  pluginOptionsChanged : Bool
  /-- `(offering.tracker.previous('plugin_options') or {}).get('storage_mode')`. -/
  oldMode : Option String
  /-- `(offering.plugin_options or {}).get('storage_mode')`. -/
  newMode : Option String

/-- `if not new_mode`: Python's truth of the new mode, set and not empty. -/
def modeDefined : Option String → Bool
  | some mode => mode ≠ ""
  | none => false

/-- `Resource.objects.filter(offering=offering).exclude(state__in=(TERMINATED, TERMINATING))`,
read once when the loop starts. -/
def liveResources (s : Store) (offering : Nat) : List Resource :=
  s.resources.rows.filter fun r =>
    r.offering = offering && r.state ∉ [ResourceState.terminated, .terminating]

section Handler

variable (tenantType : String)
  (importLimitsWhenStorageModeIsSwitched importUsage : Resource → EStateM Error Store Unit)
  (serializeInstance : Resource → σ)

/-- The loop of the handler, in its frame at `addr`. -/
def syncResources (addr : Nat) : List Resource → EStateM Error (World σ) Unit
  | [] => pure ()
  | resource :: rest => do
      onStore (importLimitsWhenStorageModeIsSwitched resource)
      onStore (importUsage resource)
      assignSerializedResource addr (serializeInstance resource)
      onCommit ⟨addr, pushTenantLimits⟩
      syncResources addr rest

/-- `synchronize_limits_when_storage_mode_is_switched(sender, instance, created)`. -/
def synchronizeLimitsWhenStorageModeIsSwitched (saved : OfferingSaved) :
    EStateM Error (World σ) Unit := do
  let addr ← newFrame
  if saved.created then return
  if saved.offering.type ≠ tenantType then return
  if !saved.pluginOptionsChanged then return
  if !modeDefined saved.newMode then return
  if saved.oldMode = saved.newMode then return
  let resources := liveResources (← get).store saved.offering.id
  syncResources importLimitsWhenStorageModeIsSwitched importUsage serializeInstance addr resources

/-- The guards of the handler all pass: a saved, not created, tenant offering whose
`plugin_options` changed and whose storage mode is now defined and different. -/
def switchesStorageMode (saved : OfferingSaved) : Bool :=
  !saved.created && saved.offering.type == tenantType && saved.pluginOptionsChanged &&
    modeDefined saved.newMode && saved.oldMode != saved.newMode

end Handler

/-! ## What the commit sends -/

theorem foldl_call_sent (cs : List (Closure σ)) (w : World σ) :
    (cs.foldl World.call w).sent = w.sent ++ cs.flatMap fun c => c.body (w.frames c.frame) := by
  induction cs generalizing w with
  | nil => simp
  | cons c cs ih => simp [ih, World.call]

/-- The commit runs every kept lambda against the frames as they are at the commit. -/
theorem commit_sent (w : World σ) :
    w.commit.sent = w.sent ++ w.runOnCommit.flatMap fun c => c.body (w.frames c.frame) :=
  foldl_call_sent _ _

/-! ## The loop over the resources -/

section Loop

variable {importLimits importUsage : Resource → EStateM Error Store Unit}
  {serializeInstance : Resource → σ}

/-- One iteration up to its `on_commit`: both imports, then the assignment. -/
theorem syncResources_cons {addr : Nat} {resource : Resource} {rest : List Resource}
    {w : World σ} {s₁ s₂ : Store} (h₁ : importLimits resource w.store = .ok () s₁)
    (h₂ : importUsage resource s₁ = .ok () s₂) :
    syncResources importLimits importUsage serializeInstance addr (resource :: rest) w =
      (onCommit ⟨addr, pushTenantLimits⟩ >>= fun _ =>
        syncResources importLimits importUsage serializeInstance addr rest)
        { w with store := s₂,
                 frames := Function.update w.frames addr ⟨some (serializeInstance resource)⟩ } := by
  simp only [syncResources, bind_apply, onStore, h₁, h₂, assignSerializedResource]

/-- In autocommit mode every lambda runs at once and pushes the resource just assigned. -/
theorem syncResources_autocommit (hlimits : ∀ r s, ∃ s', importLimits r s = .ok () s')
    (husage : ∀ r s, ∃ s', importUsage r s = .ok () s') (addr : Nat) (rs : List Resource)
    (w : World σ) (hw : w.inAtomicBlock = false) :
    ∃ w', syncResources importLimits importUsage serializeInstance addr rs w = .ok () w' ∧
      w'.inAtomicBlock = false ∧ w'.runOnCommit = w.runOnCommit ∧
      w'.sent = w.sent ++ rs.map serializeInstance := by
  induction rs generalizing w with
  | nil => exact ⟨w, rfl, hw, rfl, by simp⟩
  | cons r rest ih =>
      obtain ⟨s₁, h₁⟩ := hlimits r w.store
      obtain ⟨s₂, h₂⟩ := husage r s₁
      let assigned : World σ :=
        { w with store := s₂
                 frames := Function.update w.frames addr ⟨some (serializeInstance r)⟩ }
      have hcommit : onCommit ⟨addr, pushTenantLimits⟩ assigned =
          .ok () (assigned.call ⟨addr, pushTenantLimits⟩) := by
        simp [onCommit, assigned, hw]
      obtain ⟨w', hrun, hatomic, hkept, hsent⟩ := ih (assigned.call ⟨addr, pushTenantLimits⟩) hw
      refine ⟨w', ?_, hatomic, hkept, ?_⟩
      · rw [syncResources_cons h₁ h₂, bind_apply, hcommit]
        exact hrun
      · simp [hsent, assigned, World.call, pushTenantLimits]

/-- Inside a transaction every lambda is kept, and the frame is left holding the last
resource. -/
theorem syncResources_atomic (hlimits : ∀ r s, ∃ s', importLimits r s = .ok () s')
    (husage : ∀ r s, ∃ s', importUsage r s = .ok () s') (addr : Nat) (rs : List Resource)
    (w : World σ) (hw : w.inAtomicBlock = true) :
    ∃ w', syncResources importLimits importUsage serializeInstance addr rs w = .ok () w' ∧
      w'.sent = w.sent ∧
      w'.runOnCommit = w.runOnCommit ++ List.replicate rs.length ⟨addr, pushTenantLimits⟩ ∧
      ∀ r ∈ rs.getLast?, w'.frames addr = ⟨some (serializeInstance r)⟩ := by
  induction rs generalizing w with
  | nil => exact ⟨w, rfl, rfl, by simp, by simp⟩
  | cons r rest ih =>
      obtain ⟨s₁, h₁⟩ := hlimits r w.store
      obtain ⟨s₂, h₂⟩ := husage r s₁
      let assigned : World σ :=
        { w with store := s₂
                 frames := Function.update w.frames addr ⟨some (serializeInstance r)⟩ }
      let kept : World σ :=
        { assigned with runOnCommit := w.runOnCommit ++ [⟨addr, pushTenantLimits⟩] }
      have hcommit : onCommit ⟨addr, pushTenantLimits⟩ assigned = .ok () kept := by
        simp [onCommit, assigned, kept, hw]
      obtain ⟨w', hrun, hsent, hkept, hframe⟩ := ih kept hw
      refine ⟨w', ?_, hsent, ?_, ?_⟩
      · rw [syncResources_cons h₁ h₂, bind_apply, hcommit]
        exact hrun
      · simp [hkept, kept, List.replicate_succ]
      · cases rest with
        | nil =>
            cases hrun
            simp [kept]
        | cons next rest => simpa using hframe

end Loop

/-! ## The handler in autocommit mode and inside a transaction -/

section Handler

variable {tenantType : String} {importLimits importUsage : Resource → EStateM Error Store Unit}
  (serializeInstance : Resource → σ) {saved : OfferingSaved}

/-- When every guard passes, the handler is its loop over the live resources, in a new frame. -/
theorem synchronize_of_switch (h : switchesStorageMode tenantType saved = true) (w : World σ) :
    synchronizeLimitsWhenStorageModeIsSwitched tenantType importLimits importUsage
        serializeInstance saved w =
      syncResources importLimits importUsage serializeInstance w.nextFrame
        (liveResources w.store saved.offering.id)
        { w with nextFrame := w.nextFrame + 1
                 frames := Function.update w.frames w.nextFrame ⟨none⟩ } := by
  simp only [switchesStorageMode, Bool.and_eq_true, Bool.not_eq_true', beq_iff_eq,
    bne_iff_ne, ne_eq] at h
  obtain ⟨⟨⟨⟨hcreated, htype⟩, hchanged⟩, hdefined⟩, hmode⟩ := h
  simp [synchronizeLimitsWhenStorageModeIsSwitched, bind_apply, newFrame, hcreated, htype,
    hchanged, hdefined, hmode]

/-- In autocommit mode the handler pushes each live resource once, in order. -/
theorem switch_in_autocommit_pushes_each_resource
    (hlimits : ∀ r s, ∃ s', importLimits r s = .ok () s')
    (husage : ∀ r s, ∃ s', importUsage r s = .ok () s')
    (h : switchesStorageMode tenantType saved = true) (w : World σ)
    (hw : w.inAtomicBlock = false) :
    ∃ w', synchronizeLimitsWhenStorageModeIsSwitched tenantType importLimits importUsage
        serializeInstance saved w = .ok () w' ∧
      w'.sent = w.sent ++ (liveResources w.store saved.offering.id).map serializeInstance := by
  obtain ⟨w', hrun, -, -, hsent⟩ := syncResources_autocommit hlimits husage w.nextFrame
    (liveResources w.store saved.offering.id)
    { w with nextFrame := w.nextFrame + 1
             frames := Function.update w.frames w.nextFrame ⟨none⟩ } hw
  exact ⟨w', (synchronize_of_switch serializeInstance h w).trans hrun, hsent⟩

/-- Inside a transaction entered from autocommit mode, the commit pushes the last live
resource once for every live resource, and no other. -/
theorem switch_in_transaction_pushes_last_resource
    (hlimits : ∀ r s, ∃ s', importLimits r s = .ok () s')
    (husage : ∀ r s, ∃ s', importUsage r s = .ok () s')
    (h : switchesStorageMode tenantType saved = true) (w : World σ)
    (hkept : w.runOnCommit = []) :
    ∀ last ∈ (liveResources w.store saved.offering.id).getLast?,
      ∃ w', atomicBlock (synchronizeLimitsWhenStorageModeIsSwitched tenantType importLimits
          importUsage serializeInstance saved) w = .ok () w' ∧
        w'.sent = w.sent ++ List.replicate (liveResources w.store saved.offering.id).length
          (serializeInstance last) := by
  intro last hlast
  obtain ⟨w', hrun, hsent, hrunOnCommit, hframe⟩ := syncResources_atomic hlimits husage
    w.nextFrame (liveResources w.store saved.offering.id)
    { w with inAtomicBlock := true, nextFrame := w.nextFrame + 1
             frames := Function.update w.frames w.nextFrame ⟨none⟩ } rfl
  refine ⟨w'.commit, ?_, ?_⟩
  · simp only [atomicBlock]
    rw [synchronize_of_switch serializeInstance h, hrun]
  · rw [commit_sent, hsent, hrunOnCommit, hkept]
    simp [List.flatMap_replicate, hframe last hlast, pushTenantLimits]

end Handler

/-- A tenant offering with two live tenants and a terminated one. -/
def tenantOffering : Offering :=
  ⟨1, "Tenant", "OpenStack.Admin", true, true, some 1, none, none, 1, none, .active⟩

def firstTenant : Resource := ⟨1, 1, 1, .ok, none, none⟩

def secondTenant : Resource := ⟨2, 1, 1, .ok, none, none⟩

def twoTenantsStore : Store where
  offerings := ⟨[tenantOffering], by decide⟩
  resources := ⟨[firstTenant, secondTenant, ⟨3, 1, 1, .terminated, none, none⟩], by decide⟩

/-- The save that switches the offering's storage mode from fixed to dynamic. -/
def storageModeSwitched : OfferingSaved :=
  ⟨tenantOffering, false, true, some "fixed", some "dynamic"⟩

/-- The world before the save, in autocommit mode. -/
def beforeSwitch : World String := ⟨twoTenantsStore, fun _ => ⟨none⟩, 0, false, [], []⟩

/-- With import helpers that change nothing and any `serialize_instance`, the handler pushes
both tenants in autocommit mode, but inside a transaction it pushes the second tenant twice
and the first one never. -/
theorem storage_mode_switch_pushes_last_tenant_twice :
    (∀ serializeInstance : Resource → String,
      ∃ w, synchronizeLimitsWhenStorageModeIsSwitched "OpenStack.Admin" (fun _ => pure ())
          (fun _ => pure ()) serializeInstance storageModeSwitched beforeSwitch = .ok () w ∧
        w.sent = [serializeInstance firstTenant, serializeInstance secondTenant]) ∧
    ∀ serializeInstance : Resource → String,
      ∃ w, atomicBlock (synchronizeLimitsWhenStorageModeIsSwitched "OpenStack.Admin"
          (fun _ => pure ()) (fun _ => pure ()) serializeInstance storageModeSwitched)
          beforeSwitch = .ok () w ∧
        w.sent = [serializeInstance secondTenant, serializeInstance secondTenant] := by
  have hswitch : switchesStorageMode "OpenStack.Admin" storageModeSwitched = true := by decide
  have hlive : liveResources twoTenantsStore 1 = [firstTenant, secondTenant] := by decide
  have hnoop : ∀ (r : Resource) (s : Store),
      ∃ s', ((fun _ => pure ()) r : EStateM Error Store Unit) s = .ok () s' :=
    fun _ s => ⟨s, rfl⟩
  refine ⟨fun serializeInstance => ?_, fun serializeInstance => ?_⟩
  · obtain ⟨w, hrun, hsent⟩ := switch_in_autocommit_pushes_each_resource serializeInstance
      hnoop hnoop hswitch beforeSwitch rfl
    exact ⟨w, hrun, by simpa [beforeSwitch, storageModeSwitched, tenantOffering, hlive] using hsent⟩
  · obtain ⟨w, hrun, hsent⟩ := switch_in_transaction_pushes_last_resource serializeInstance
      hnoop hnoop hswitch beforeSwitch rfl secondTenant
      (by simp [beforeSwitch, storageModeSwitched, tenantOffering, hlive])
    exact ⟨w, hrun, by simpa [beforeSwitch, storageModeSwitched, tenantOffering, hlive] using hsent⟩

end Waldur.StorageMode
