import Urp.ManifestWrites
import Urp.ObjectPuts

/-!
# Manifests under legal hold

A stored execution copies the policy context of its work unit into the lineage
of its manifest, where a deletion looks for the hold.  An observation and a
prompt request copy nothing, so that their manifests can be deleted.
-/

namespace Urp

open Python Program

/-! ## What becomes of a hold -/

/-- A mode that was resolved resolves to itself. -/
theorem executionMode_value (session : Session) (mode : Mode) :
    executionMode session (some mode.value) = .ok mode := by
  have asked : textOr (some mode.value) (session.urpMode.getD "enforce") =
      mode.value := by
    cases mode <;> rfl
  have lowered : (strip mode.value).toLower = mode.value := by
    cases mode <;> decide +kernel
  simp only [executionMode, asked, lowered]
  cases mode <;> rfl

theorem Manifest.legalHold_eq {manifest : Manifest}
    {entries : List (String × Value)}
    (context : manifest.lineage.getD "policy_context" (.dict []) =
      .dict entries) :
    manifest.legalHold = .ok (Value.get entries "legal_hold").isTrue := by
  unfold Manifest.legalHold
  rw [context]

/-- A file keeps what is `True`. -/
theorem isTrue_sorted_withText (value : Value) :
    value.withText.sorted.isTrue = value.isTrue := by
  cases value <;> rfl

/-- The stored manifest has this hold, and it is not deleted. -/
structure Manifest.Carries (held : Bool) (manifest : Manifest) : Prop where
  hold : manifest.reloaded.legalHold = .ok held
  live : manifest.state ≠ .tombstoned

theorem carries_of_context {manifest : Manifest} {workUnit : WorkUnit}
    (lineage : manifest.lineage = .ofList
      [("work_unit_metadata", workUnit.metadata.toValue),
        ("policy_context", workUnit.policyContext.toValue)])
    (live : manifest.state ≠ .tombstoned) :
    manifest.Carries (legalHold workUnit) := by
  refine ⟨?_, live⟩
  have context : manifest.reloaded.lineage.getD "policy_context" (.dict []) =
      .dict workUnit.policyContext.reloaded.entries := by
    change manifest.lineage.reloaded.getD "policy_context" (.dict []) = _
    unfold Object.getD
    rw [Object.lookup_reloaded, lineage]
    rfl
  have read : (Value.get workUnit.policyContext.reloaded.entries
      "legal_hold").isTrue = legalHold workUnit := by
    change ((workUnit.policyContext.reloaded.lookup "legal_hold").getD
      .none).isTrue = ((workUnit.policyContext.lookup "legal_hold").getD
        .none).isTrue
    rw [Object.lookup_reloaded]
    cases workUnit.policyContext.lookup "legal_hold" with
    | none => rfl
    | some value => exact isTrue_sorted_withText value
  rw [Manifest.legalHold_eq context, read]

theorem carries_of_empty {manifest : Manifest} (lineage : manifest.lineage = ∅)
    (live : manifest.state ≠ .tombstoned) : manifest.Carries false := by
  have context : manifest.reloaded.lineage.getD "policy_context" (.dict []) =
      .dict [] := by
    change manifest.lineage.reloaded.getD "policy_context" (.dict []) = _
    rw [lineage]
    rfl
  exact ⟨Manifest.legalHold_eq context, live⟩

namespace WorkUnitCall

variable (call : WorkUnitCall)

/-- The pipeline that the call selects copies the policy context. -/
def copiesContext : Bool :=
  match executionMode call.session call.requestedMode with
  | .ok .observe => false
  | _ => decide (call.workUnit.kind ≠ .promptRequest)

/-- The hold that is left in the manifests of the call. -/
def carriedHold : Bool :=
  legalHold call.workUnit && call.copiesContext

end WorkUnitCall

section Executions

variable {host : Host}

theorem Execution.Makes.carries {execution : Execution} {prepared : Prepared}
    {manifest : Manifest} (makes : execution.Makes prepared manifest) :
    manifest.Carries
      (legalHold execution.workUnit && decide (prepared.mode ≠ .observe)) := by
  cases makes with
  | observed mode manifestId createdAt =>
      rw [decide_eq_false (not_not.mpr mode), Bool.and_false]
      have live : ManifestState.planned ≠ .tombstoned := by decide
      exact carries_of_empty rfl live
  | stored mode segments verification manifestId createdAt =>
      rw [decide_eq_true mode, Bool.and_true]
      apply carries_of_context rfl
      change (if prepared.mode = .enforce then ManifestState.active
        else .superseded) ≠ .tombstoned
      split <;> decide

/-- The manifests of an execution have the hold of its work unit, unless it
only observes. -/
theorem adds_execution {execution : Execution} {mode : Mode}
    (resolved : executionMode execution.session execution.requestedMode =
      .ok mode) :
    Within (World.Adds host (Manifest.Carries
        (legalHold execution.workUnit && decide (mode ≠ .observe))))
      (executeExactObject host execution) := by
  intro world
  cases ready : execution.prepare host with
  | error error =>
      rw [execute_of_unprepared host ready world]
      exact refl_of (World.Adds host _) world
  | ok prepared =>
      have same : mode = prepared.mode := by
        have run := (Execution.prepare_eq_ok ready).1
        rw [resolved] at run
        exact Except.ok.inj run
      rw [same]
      exact (adds_executeExactObject execution prepared ready world).mono
        fun manifest makes => makes.carries

/-- A mock adapter's name does not change the hold. -/
theorem adds_mock {execution : Execution} {mode : Mode}
    (resolved : executionMode execution.session execution.requestedMode =
      .ok mode) :
    Within (World.Adds host (Manifest.Carries
        (legalHold execution.workUnit && decide (mode ≠ .observe))))
      (executeMockAdapter host execution) := by
  let adapter := execution.workUnit.metadata.get "adapter"
  let name := host.str
    (if adapter.isTruthy then adapter else .str "local_mock")
  let named : Execution := { execution with adapterName := some name }
  have same : legalHold execution.workUnit = legalHold named.workUnit := rfl
  rw [same]
  exact @adds_execution host named mode resolved

/-- So do those of a work unit that is no prompt request. -/
theorem adds_executeWorkUnit (call : WorkUnitCall) :
    Within (Gateway.Adds host (Manifest.Carries call.carriedHold))
      (executeWorkUnit host call) := by
  unfold executeWorkUnit
  cases checked : call.checked host with
  | error error =>
      rw [lift_error_bind]
      exact within_raise error
  | ok mode =>
      have resolved : executionMode call.session call.requestedMode =
          .ok mode := by
        obtain ⟨chosen, run, checked⟩ := except_bind_eq_ok_iff.mp checked
        obtain ⟨-, -, checked⟩ := except_bind_eq_ok_iff.mp checked
        obtain ⟨-, -, checked⟩ := except_bind_eq_ok_iff.mp checked
        cases checked
        exact run
      rw [lift_ok_bind]
      refine within_bind (adds_focus (adds_of_quiet (quiet_policies _)))
        fun bundle => ?_
      split
      · rename_i prompt
        have drops : call.carriedHold = false := by
          unfold WorkUnitCall.carriedHold WorkUnitCall.copiesContext
          rw [prompt]
          split <;> simp
        rw [drops]
        refine within_bind ?_ fun reply => within_ret _
        apply adds_chat
        intro chat served record manifestId createdAt
        apply carries_of_empty rfl
        change chat.setup.mode.manifestState ≠ .tombstoned
        cases chat.setup.mode <;> decide
      · rename_i object
        have carried : call.carriedHold =
            (legalHold call.workUnit && decide (mode ≠ .observe)) := by
          unfold WorkUnitCall.carriedHold WorkUnitCall.copiesContext
          rw [resolved]
          cases mode <;> simp [object]
        rw [carried]
        apply adds_focus
        unfold executeObject
        split
        · exact @adds_execution host (call.execution mode bundle) mode
            (executionMode_value call.session mode)
        · exact @adds_mock host (call.execution mode bundle) mode
            (executionMode_value call.session mode)

end Executions

/-! ## Deletions -/

namespace LocalS3Adapter

section Deletions

variable {host : Host} {session : Session} {tenant : String}
variable {manifestId actor : String} {allowDelete : Bool} {world : World}

/-- The deletion was allowed, and it marked the manifest. -/
structure Removes (session : Session) (tenant manifestId : String)
    (allowDelete : Bool) (world later : World) : Prop where
  allowed : allowDelete = true
  admitted : requireTenant session tenant = .ok ()
  marked : ∃ manifest, manifest.tenant = tenant ∧
    manifest.legalHold = .ok false ∧ Tombstones world later manifestId manifest

/-- A deletion that returns was refused or marked the manifest. -/
theorem ensures_deleteObject :
    Ensures (deleteObject host session tenant manifestId actor allowDelete) world
      (fun deleted later => deleted.deleted = false ∧ Spares world later ∨
        Removes session tenant manifestId allowDelete world later)
      (fun _ later => Spares world later ∨
        Removes session tenant manifestId allowDelete world later) := by
  have still : Spares world world := ⟨rfl, .refl _⟩
  unfold deleteObject
  rw [ensures_bind, ensures_focus]
  apply (ensures_getForTenant session tenant manifestId _).mono
  · rintro manifest _ ⟨rfl, found, owned, admitted⟩
    rw [ensures_bind, ensures_lift]
    refine ⟨fun held hold => ?_, fun _ _ => .inl still⟩
    rw [ensures_ite]
    constructor
    · intro _
      rw [ensures_bind]
      apply ((quiet_record host session _).ensures _).mono
      · exact fun _ _ quiet => .inl ⟨rfl, quiet.manifests, quiet.supply⟩
      · exact fun _ _ quiet => .inl ⟨quiet.manifests, quiet.supply⟩
    · intro free
      have passed : held = false ∧ allowDelete = true := by
        simpa using free
      obtain ⟨rfl, allowed⟩ := passed
      rw [ensures_bind, ensures_focus]
      apply (FileManifestStore.ensures_put host session _ _).mono
      · rintro _ files ⟨-, rfl⟩
        have removes : ∀ later, World.Quiet (World.manifestsLens.set world
            (world.manifests.insert manifest.manifestId
              { manifest with state := .tombstoned }.reloaded)) later →
            Removes session tenant manifestId allowDelete world later :=
          fun later quiet => ⟨allowed, admitted, manifest, owned, hold,
            found, quiet.manifests, quiet.supply⟩
        rw [ensures_bind]
        apply ((quiet_record host session _).ensures _).mono
        · exact fun _ later quiet => .inr (removes later quiet)
        · exact fun _ later quiet => .inr (removes later quiet)
      · rintro _ files rfl
        exact .inl still
  · rintro _ _ rfl
    exact .inl still

theorem deleteObject_leaves :
    let later :=
      (deleteObject host session tenant manifestId actor allowDelete world).2
    Spares world later ∨
      Removes session tenant manifestId allowDelete world later := by
  intro later
  let leaves := fun later : World => Spares world later ∨
    Removes session tenant manifestId allowDelete world later
  apply (@ensures_state_iff _ _ _ world _ leaves).mp
  apply ensures_deleteObject.mono
  · rintro _ later (⟨-, spares⟩ | removes)
    · exact .inl spares
    · exact .inr removes
  · exact fun _ _ left => left

/-- The owner may delete a manifest without a hold. -/
theorem removes_deleteObject {manifest : Manifest}
    (accepted : validateIdentifier manifestId "manifest id" "mf_" =
      .ok manifestId)
    (found : world.manifests.lookup manifestId = some manifest)
    (named : manifest.manifestId = manifestId)
    (valid : validateManifest host manifest = .ok ())
    (free : manifest.legalHold = .ok false)
    (admitted : requireTenant session manifest.tenant = .ok ()) :
    (deleteObject host session manifest.tenant manifestId actor true
      world).2.manifests.lookup manifestId =
        some { manifest with state := .tombstoned }.reloaded := by
  let marked := fun later : World => later.manifests.lookup manifestId =
    some { manifest with state := .tombstoned }.reloaded
  have owned : focus World.manifestsLens (FileManifestStore.getForTenant session
      manifestId manifest.tenant) world = (.ok manifest, world) := by
    have got := get_of_found accepted found admitted
    have read := run_of_focus got
    apply focus_of_run
    unfold FileManifestStore.getForTenant
    rw [bind_ok read]
    unfold requireManifestTenant
    rw [if_pos rfl]
    rfl
  have put : focus World.manifestsLens (FileManifestStore.put host session
      { manifest with state := .tombstoned }) world =
      (.ok (), World.manifestsLens.set world (world.manifests.insert manifestId
        { manifest with state := .tombstoned }.reloaded)) := by
    apply focus_of_run
    unfold FileManifestStore.put
    have enters : enforceRequestTenant session
        { manifest with state := .tombstoned } = .ok () := admitted
    have passes : validateManifest host
        { manifest with state := .tombstoned } = .ok () := valid
    rw [enters, lift_ok_bind, passes, lift_ok_bind]
    change (lift (validateIdentifier manifest.manifestId _ _) >>= _) _ = _
    rw [named, accepted, lift_ok_bind]
    rfl
  apply (@ensures_state_iff _ _ _ world _ marked).mp
  unfold deleteObject
  rw [ensures_bind, ensures_of_run owned, free, lift_ok_bind,
    if_neg (by decide), ensures_bind, ensures_of_run put, ensures_bind]
  have written : marked (World.manifestsLens.set world
      (world.manifests.insert manifestId
        { manifest with state := .tombstoned }.reloaded)) :=
    Dict.lookup_insert_self _ _ _
  have kept : ∀ later, World.Quiet (World.manifestsLens.set world
      (world.manifests.insert manifestId
        { manifest with state := .tombstoned }.reloaded)) later →
      marked later := by
    intro later quiet
    change later.manifests.lookup manifestId = _
    rw [quiet.manifests]
    exact written
  apply ((quiet_record host session _).ensures _).mono
  · exact fun _ later quiet => kept later quiet
  · exact fun _ later quiet => kept later quiet

end Deletions

theorem adds_putObject (host : Host) (session : Session) (tenant : String)
    (put : ObjectPut) :
    Within (Gateway.Adds host (Manifest.Carries
        ((policyContext put.tags).get "legal_hold").isTrue))
      (putObject host session tenant put) := by
  intro gateway
  let adds := fun later : Gateway => gateway.Adds host (Manifest.Carries
    ((policyContext put.tags).get "legal_hold").isTrue) later
  apply (@ensures_state_iff _ _ _ gateway _ adds).mp
  unfold putObject
  rw [ensures_bind, ensures_focus, ensures_focus]
  apply (ensures_putWorkUnit host tenant put _).mono
  · rintro workUnit supply ⟨drawn, kind, -, -, context⟩
    let call : WorkUnitCall :=
      { session, workUnit, requestedMode := some "enforce" }
    have carried : call.carriedHold =
        ((policyContext put.tags).get "legal_hold").isTrue := by
      have copies : call.copiesContext = true := by
        have mode : executionMode call.session call.requestedMode =
            .ok .enforce := executionMode_enforce session
        unfold WorkUnitCall.copiesContext
        rw [mode, show call.workUnit.kind = .byteObject from kind]
        rfl
      unfold WorkUnitCall.carriedHold
      rw [copies, Bool.and_true, ← context]
      rfl
    have executes := @adds_executeWorkUnit host call
    rw [carried] at executes
    have begun : adds (Gateway.worldLens.set gateway
        (World.supplyLens.set gateway.world supply)) :=
      World.Adds.of_same rfl drawn
    rw [ensures_bind]
    apply (executes.ensures _).mono
    · exact fun _ later added => trans_of (Gateway.Adds host _) begun added
    · exact fun _ later added => trans_of (Gateway.Adds host _) begun added
  · exact fun _ _ impossible => impossible.elim

end LocalS3Adapter

end Urp
