import Urp.LegalHolds
import Urp.ObjectProgress
import Urp.WorkUnitReports

/-!
# Runs under legal hold

What is written for a work unit under legal hold stays as it was written, as
long as no owner is allowed to delete a manifest whose pipeline left the hold
behind.
-/

namespace Urp

open Python Program

inductive HoldCall where
  | execute (call : WorkUnitCall)
  | put (session : Session) (tenant : String) (put : ObjectPut)
  | delete (session : Session) (tenant manifestId actor : String)
      (allowDelete : Bool)

/-- What a call returned or raised. -/
inductive HoldReply where
  | executed (result : Except PyException ExecutionResult)
  | stored (result : Except PyException StoredObject)
  | deleted (result : Except PyException DeletedObject)

def holdStep (host : Host) (gateway : Gateway) :
    HoldCall → HoldReply × Gateway
  | .execute call =>
      let run := executeWorkUnit host call gateway
      (.executed run.1, run.2)
  | .put session tenant put =>
      let run := LocalS3Adapter.putObject host session tenant put gateway
      (.stored run.1, run.2)
  | .delete session tenant manifestId actor allowDelete =>
      let run := focus Gateway.worldLens (LocalS3Adapter.deleteObject host
        session tenant manifestId actor allowDelete) gateway
      (.deleted run.1, run.2)

abbrev HoldVisit : Type := Run.Visit Gateway HoldCall HoldReply

namespace HoldCall

/-- The policy context of the call's work unit holds. -/
def holds : HoldCall → Bool
  | execute call => legalHold call.workUnit
  | put _ _ object => ((LocalS3Adapter.policyContext object.tags).get
      "legal_hold").isTrue
  | delete .. => false

/-- The call's pipeline copies the policy context. -/
def copiesContext : HoldCall → Bool
  | execute call => call.copiesContext
  | put .. | delete .. => true

end HoldCall

/-- The call wrote this manifest for a work unit under legal hold. -/
structure WroteHeld (v : HoldVisit) (manifest : Manifest) : Prop where
  holds : v.input.holds = true
  missing : v.before.world.manifests.lookup manifest.manifestId = none
  found : v.after.world.manifests.lookup manifest.manifestId = some manifest

/-- After the call, what was written under legal hold is there as it was
written, and no deletion of it returned that it deleted. -/
def KeepsHolds (past : List HoldVisit) (v : HoldVisit) : Prop :=
  ∀ w ∈ past ++ [v], ∀ manifest, WroteHeld w manifest →
    manifest.state ≠ .tombstoned ∧
    v.after.world.manifests.lookup manifest.manifestId = some manifest ∧
    ∀ session tenant actor allowDelete,
      v.input = .delete session tenant manifest.manifestId actor allowDelete →
        ∀ deleted, v.output = .deleted (.ok deleted) → deleted.deleted = false

/-- The call is no allowed deletion, by its owner, of a manifest whose
pipeline left the hold behind. -/
def SparesUncopied (past : List HoldVisit) (v : HoldVisit) : Prop :=
  ∀ w ∈ past, ∀ manifest, WroteHeld w manifest →
    w.input.copiesContext = false → ∀ session actor,
      requireTenant session manifest.tenant = .ok () →
        v.input ≠ .delete session manifest.tenant manifest.manifestId actor true

/-! ## What a run keeps -/

/-- Every manifest was filed, and those under legal hold are as they were
written. -/
structure HoldsKept (host : Host) (history : List HoldVisit) (gateway : Gateway) :
    Prop where
  filed : ∀ {manifestId manifest},
    gateway.world.manifests.lookup manifestId = some manifest →
      manifest.manifestId = manifestId ∧
        manifest.Filed host 0 gateway.world.supply.nextId
  held : ∀ w ∈ history, ∀ {manifest}, WroteHeld w manifest →
    gateway.world.manifests.lookup manifest.manifestId = some manifest ∧
      manifest.state ≠ .tombstoned ∧
        manifest.legalHold = .ok w.input.copiesContext

/-- Nothing was written to an empty store. -/
theorem holdsKept_empty {host : Host} {gateway : Gateway}
    (empty : gateway.world.manifests = ∅) : HoldsKept host [] gateway := by
  constructor
  · intro manifestId manifest found
    rw [empty] at found
    cases found
  · intro w member
    cases member

section Steps

variable {host : Host} {history : List HoldVisit} {v : HoldVisit}

theorem Manifest.Filed.reloaded {low high : Nat} {manifest : Manifest}
    (filed : manifest.Filed host low high) :
    manifest.reloaded.Filed host low high :=
  ⟨filed.drawn, filed.accepted, filed.valid⟩

/-- A call that only adds manifests keeps the others. -/
theorem HoldsKept.of_adds (fresh : Function.Injective host.uuid4)
    (before : HoldsKept host history v.before)
    (adds : v.before.Adds host (Manifest.Carries
      (v.input.holds && v.input.copiesContext)) v.after) :
    HoldsKept host (history ++ [v]) v.after := by
  constructor
  · intro manifestId manifest found
    rcases adds.lookup manifestId with same | ⟨new, taken, -, named, filed⟩
    · rw [same] at found
      obtain ⟨named, filed⟩ := before.filed found
      exact ⟨named, filed.widen (Nat.le_refl _) adds.drawn⟩
    · rw [taken] at found
      cases found
      exact ⟨named, filed.reloaded.widen (Nat.zero_le _) (Nat.le_refl _)⟩
  · rw [List.forall_mem_append, List.forall_mem_singleton]
    constructor
    · intro w member manifest wrote
      obtain ⟨found, rest⟩ := before.held w member wrote
      refine ⟨?_, rest⟩
      rcases adds.lookup manifest.manifestId with same | ⟨new, -, -, named, filed⟩
      · rw [same]
        exact found
      · obtain ⟨j, -, below, old⟩ := (before.filed found).2.drawn
        obtain ⟨k, above, -, drawn⟩ := filed.drawn
        have equal := idText_injective fresh
          (old.symm.trans (named.symm.trans drawn))
        omega
    · intro manifest wrote
      refine ⟨wrote.found, ?_⟩
      rcases adds.lookup manifest.manifestId with same | ⟨new, taken, carries, -⟩
      · have found := wrote.found
        rw [same, wrote.missing] at found
        cases found
      · have found := wrote.found
        rw [taken] at found
        obtain rfl := Option.some.inj found
        have hold := carries.hold
        rw [wrote.holds, Bool.true_and] at hold
        exact ⟨carries.live, hold⟩

/-- What an allowed deletion marks was not under legal hold. -/
theorem HoldsKept.apart {session : Session} {tenant manifestId actor : String}
    {allowDelete : Bool} {later : World}
    (before : HoldsKept host history v.before) (guard : SparesUncopied history v)
    (input : v.input = .delete session tenant manifestId actor allowDelete)
    (removes : LocalS3Adapter.Removes session tenant manifestId allowDelete
      v.before.world later) :
    ∀ w ∈ history, ∀ manifest, WroteHeld w manifest →
      manifest.manifestId ≠ manifestId := by
  rintro w member manifest wrote rfl
  obtain ⟨allowed, admitted, marked, owned, free, marks⟩ := removes
  obtain ⟨found, -, hold⟩ := before.held w member wrote
  rw [marks.found] at found
  obtain rfl := Option.some.inj found
  rw [free] at hold
  have uncopied : w.input.copiesContext = false :=
    (Except.ok.inj hold).symm
  rw [← owned] at admitted
  apply guard w member marked wrote uncopied session actor admitted
  rw [input, allowed, owned]

theorem HoldsKept.of_removes {session : Session} {tenant manifestId : String}
    {allowDelete : Bool} (before : HoldsKept host history v.before)
    (holds : v.input.holds = false)
    (removes : LocalS3Adapter.Removes session tenant manifestId allowDelete
      v.before.world v.after.world)
    (apart : ∀ w ∈ history, ∀ manifest, WroteHeld w manifest →
      manifest.manifestId ≠ manifestId) :
    HoldsKept host (history ++ [v]) v.after := by
  obtain ⟨-, -, marked, -, -, marks⟩ := removes
  have named := (before.filed marks.found).1
  have lookup : ∀ id, v.after.world.manifests.lookup id =
      if manifestId = id then some { marked with state := .tombstoned }.reloaded
      else v.before.world.manifests.lookup id := by
    intro id
    rw [marks.manifests, Dict.lookup_insert, named]
  constructor
  · intro id manifest found
    rw [lookup] at found
    split at found
    · rename_i same
      cases found
      obtain ⟨-, filed⟩ := before.filed marks.found
      have widened := filed.widen (Nat.le_refl _) marks.supply.1
      exact ⟨named.trans same,
        widened.drawn, widened.accepted, widened.valid⟩
    · obtain ⟨same, filed⟩ := before.filed found
      exact ⟨same, filed.widen (Nat.le_refl _) marks.supply.1⟩
  · rw [List.forall_mem_append, List.forall_mem_singleton]
    constructor
    · intro w member manifest wrote
      rw [lookup, if_neg (apart w member manifest wrote).symm]
      exact before.held w member wrote
    · intro manifest wrote
      rw [wrote.holds] at holds
      cases holds

/-- A call that deletes nothing keeps what is retained. -/
theorem HoldsKept.keepsHolds (after : HoldsKept host (history ++ [v]) v.after)
    (returned : ∀ w ∈ history ++ [v], ∀ manifest, WroteHeld w manifest →
      ∀ session tenant actor allowDelete,
        v.input = .delete session tenant manifest.manifestId actor allowDelete →
          ∀ deleted, v.output = .deleted (.ok deleted) →
            deleted.deleted = false) :
    KeepsHolds history v := by
  intro w member manifest wrote
  obtain ⟨found, live, -⟩ := after.held w member wrote
  exact ⟨live, found, returned w member manifest wrote⟩

end Steps

/-- What an execution of an exact kind reports is in the store. -/
theorem wrote_of_returned {host : Host} {call : WorkUnitCall}
    {gateway later : Gateway} {result : ExecutionResult}
    (exact : call.workUnit.kind ∈ exactKinds)
    (returned : executeWorkUnit host call gateway = (.ok result, later)) :
    ∃ manifest, later.world.manifests.lookup result.manifestId = some manifest ∧
      manifest.manifestId = result.manifestId ∧
        manifest.tenant = call.workUnit.tenant := by
  obtain ⟨mode, bundle, resolved, -, -, ran⟩ := executeWorkUnit_eq_ok returned
  have object : call.workUnit.kind ≠ .promptRequest := by
    intro prompt
    rw [prompt] at exact
    revert exact
    decide
  rw [if_neg object] at ran
  have run := run_of_focus ran
  unfold executeObject at run
  rw [if_pos (show (call.execution mode bundle).workUnit.kind ∈ exactKinds from
    exact)] at run
  obtain ⟨prepared, _, lifted, -⟩ := bind_eq_ok_iff.mp run
  have ready : (call.execution mode bundle).prepare host = .ok prepared :=
    congrArg Prod.fst lifted
  obtain ⟨manifest, outcome, same⟩ :=
    (ensures_executeExactObject host ready _).of_ok run
  have written := outcome.written
  obtain ⟨_, _, _, _, _, _, made⟩ := written.made
  refine ⟨manifest.reloaded, ?_, same.symm, ?_⟩
  · rw [same]
    exact (congrArg (Dict.lookup · manifest.manifestId) written.manifests).trans
      (Dict.lookup_insert_self _ _ _)
  · change manifest.tenant = _
    rw [made]
    rfl

section Run

variable {host : Host} (fresh : Function.Injective host.uuid4)

include fresh

/-- What a call does to manifests that are retained. -/
theorem holdsKept_step {history : List HoldVisit} {gateway : Gateway}
    (before : HoldsKept host history gateway) (call : HoldCall) :
    let v := Run.visit (holdStep host) gateway call
    (KeepsHolds history v ↔ SparesUncopied history v) ∧
      (SparesUncopied history v → HoldsKept host (history ++ [v]) v.after) := by
  intro v
  have nothing : (∀ session tenant manifestId actor allowDelete,
      v.input ≠ .delete session tenant manifestId actor allowDelete) →
      v.before.Adds host (Manifest.Carries
        (v.input.holds && v.input.copiesContext)) v.after →
      (KeepsHolds history v ↔ SparesUncopied history v) ∧
        (SparesUncopied history v → HoldsKept host (history ++ [v]) v.after) := by
    intro none adds
    have kept := HoldsKept.of_adds fresh before adds
    have guard : SparesUncopied history v :=
      fun _ _ _ _ _ _ _ _ => none _ _ _ _ _
    refine ⟨iff_of_true (kept.keepsHolds ?_) guard, fun _ => kept⟩
    intro _ _ _ _ session tenant actor allowDelete input
    exact absurd input (none _ _ _ _ _)
  cases call with
  | execute call =>
      refine nothing ?_ (adds_executeWorkUnit call gateway)
      intro _ _ _ _ _ same
      cases same
  | put session tenant put =>
      apply nothing
      · intro _ _ _ _ _ same
        cases same
      · rw [show v.input.copiesContext = true from rfl, Bool.and_true]
        exact LocalS3Adapter.adds_putObject host session tenant put gateway
  | delete session tenant manifestId actor allowDelete =>
      have input : v.input =
        .delete session tenant manifestId actor allowDelete := rfl
      change HoldsKept host history v.before at before
      have spec := @LocalS3Adapter.ensures_deleteObject host session tenant
        manifestId actor allowDelete v.before.world
      have kept : SparesUncopied history v →
          HoldsKept host (history ++ [v]) v.after := by
        intro guard
        have left : LocalS3Adapter.Spares v.before.world v.after.world ∨
            LocalS3Adapter.Removes session tenant manifestId allowDelete
              v.before.world v.after.world := by
          apply LocalS3Adapter.deleteObject_leaves
        rcases left with spares | removes
        · exact HoldsKept.of_adds fresh before (.of_same spares.1 spares.2)
        · exact before.of_removes rfl removes (before.apart guard input removes)
      refine ⟨⟨?_, fun guard => (kept guard).keepsHolds ?_⟩, kept⟩
      · intro keeps w member manifest wrote uncopied session actor admitted same
        rw [input] at same
        cases same
        obtain ⟨found, live, hold⟩ := before.held w member wrote
        obtain ⟨-, filed⟩ := before.filed found
        rw [uncopied] at hold
        have marked := @LocalS3Adapter.removes_deleteObject host session
          manifest.manifestId actor v.before.world manifest filed.accepted found
          rfl filed.valid hold admitted
        obtain ⟨-, stays, -⟩ := keeps w (List.mem_append_left _ member) manifest
          wrote
        have same := marked.symm.trans stays
        apply live
        rw [← Option.some.inj same]
        rfl
      · intro w member manifest wrote asker owner asking allowed same deleted
          returned
        rw [input] at same
        cases same
        have run := HoldReply.deleted.inj returned
        rcases spec.of_ok (Prod.ext run rfl) with ⟨refused, -⟩ | removes
        · exact refused
        · have past : w ∈ history := by
            rcases List.mem_append.mp member with earlier | now
            · exact earlier
            · rw [List.mem_singleton.mp now] at wrote
              cases wrote.holds
          exact absurd rfl (before.apart guard input removes w past manifest
            wrote)

/-- In every run from an empty store, what is written under a legal hold is
never deleted if and only if no owner is allowed to delete a manifest whose
pipeline left the hold behind. -/
theorem keepsHolds_iff {gateway : Gateway}
    (empty : gateway.world.manifests = ∅) (calls : List HoldCall) :
    Run.Each KeepsHolds (Run.visits (holdStep host) gateway calls) ↔
      Run.Each SparesUncopied (Run.visits (holdStep host) gateway calls) := by
  apply Run.each_iff_of_step (holdsKept_empty empty)
  · intro history late call before
    exact (holdsKept_step fresh before call).1
  · intro history late call before
    exact (holdsKept_step fresh before call).2

/-- A manifest whose pipeline left the hold behind is deleted on request. -/
theorem not_keepsHolds_of_uncopied {gateway later : Gateway}
    {call : WorkUnitCall} {result : ExecutionResult} {session : Session}
    {actor : String} (empty : gateway.world.manifests = ∅)
    (exact : call.workUnit.kind ∈ exactKinds)
    (holds : legalHold call.workUnit = true)
    (uncopied : call.copiesContext = false)
    (admitted : requireTenant session call.workUnit.tenant = .ok ())
    (returned : executeWorkUnit host call gateway = (.ok result, later)) :
    ¬ Run.Each KeepsHolds (Run.visits (holdStep host) gateway
      [.execute call, .delete session call.workUnit.tenant result.manifestId
        actor true]) := by
  intro keeps
  let v := Run.visit (holdStep host) gateway (.execute call)
  have after : v.after = later := congrArg Prod.snd returned
  let w := Run.visit (holdStep host) v.after (.delete session
    call.workUnit.tenant result.manifestId actor true)
  have guard : SparesUncopied [] v := by
    intro _ impossible
    cases impossible
  have before := (holdsKept_step fresh (holdsKept_empty empty)
    (.execute call)).2 guard
  obtain ⟨manifest, found, named, owned⟩ := wrote_of_returned exact returned
  have wrote : WroteHeld v manifest := by
    refine ⟨holds, ?_, ?_⟩
    · change gateway.world.manifests.lookup _ = none
      rw [empty]
      rfl
    · rw [after, named]
      exact found
  have spares := (holdsKept_step fresh before (.delete session
    call.workUnit.tenant result.manifestId actor true)).1.mp
      (keeps [v] w [] rfl)
  rw [← owned] at admitted
  apply spares v List.mem_cons_self manifest wrote uncopied session actor
    admitted
  change HoldCall.delete session call.workUnit.tenant result.manifestId actor
    true = _
  rw [named, owned]

end Run

/-! ## A held work unit that is observed -/

/-- A file of two bytes under legal hold. -/
def heldCall (mode : String) : WorkUnitCall where
  workUnit := {
    (sampleExecution "acme" "default" mode).workUnit with
    policyContext := .ofList [("legal_hold", .bool true)] }
  requestedMode := some mode

theorem heldCall_observes :
    ∃ result later, executeWorkUnit Host.counting (heldCall "observe") {} =
      (.ok result, later) := by
  let call := heldCall "observe"
  let execution := call.execution .observe none
  have checks : Passes (fun mode => mode = .observe)
      (call.checked Host.counting) = true := by
    decide +kernel
  have prepares : Passes (fun prepared : Prepared =>
      prepared.mode = .observe && !prepared.policy.requireApproval)
        (execution.prepare Host.counting) = true := by
    decide +kernel
  obtain ⟨mode, checked, same⟩ := exists_of_passes checks
  rw [decide_eq_true_eq] at same
  subst same
  obtain ⟨prepared, ready, passes⟩ := exists_of_passes prepares
  simp only [Bool.and_eq_true, decide_eq_true_eq, Bool.not_eq_true'] at passes
  have admitted : execution.Admitted Host.counting prepared :=
    ⟨ready, passes.2, by decide, rfl⟩
  have healthy : ({} : World).Healthy := ⟨[], by simp, rfl⟩
  have observes := admitted.observes Host.counting_reliable passes.1 healthy
    (Host.counting_identifier (by decide))
  obtain ⟨result, later, run, -⟩ := Ensures.returns observes
  have found : focus Gateway.worldLens (focus World.policiesLens
      (resolveActivePolicyBundle call.session
        (policyName Host.counting call.workUnit))) {} =
      (.ok none, ({} : Gateway)) := by
    simp only [focus]
    rw [show World.policiesLens.get (Gateway.worldLens.get {}) = {} from rfl,
      resolveActivePolicyBundle_unpublished]
    rfl
  have object : call.workUnit.kind ≠ .promptRequest := by decide
  have exact : execution.workUnit.kind ∈ exactKinds := by decide
  refine ⟨result, Gateway.worldLens.set {} later, ?_⟩
  unfold executeWorkUnit
  rw [checked, lift_ok_bind, bind_ok found, if_neg object]
  apply focus_of_run
  unfold executeObject
  rw [if_pos exact]
  exact run

theorem keepsHolds_iff_heldCall :
    Run.Each KeepsHolds (Run.visits (holdStep Host.counting) {}
        [.execute (heldCall "observe"), .execute (heldCall "enforce"),
          .delete {} "acme" (Host.counting.idText "mf" 3) "operator" true]) ↔
      Run.Each SparesUncopied (Run.visits (holdStep Host.counting) {}
        [.execute (heldCall "observe"), .execute (heldCall "enforce"),
          .delete {} "acme" (Host.counting.idText "mf" 3) "operator" true]) :=
  keepsHolds_iff Host.counting_fresh rfl _

/-- The observed work unit's manifest is deleted in spite of its hold. -/
theorem heldCall_not_keepsHolds :
    ¬ ∀ calls, Run.Each KeepsHolds
      (Run.visits (holdStep Host.counting) {} calls) := by
  intro keeps
  obtain ⟨result, later, returned⟩ := heldCall_observes
  have kind : (heldCall "observe").workUnit.kind ∈ exactKinds := by decide
  have holds : legalHold (heldCall "observe").workUnit = true := by decide
  have uncopied : (heldCall "observe").copiesContext = false := by
    decide +kernel
  exact @not_keepsHolds_of_uncopied Host.counting Host.counting_fresh {} later
    (heldCall "observe") result {} "operator" rfl kind holds uncopied rfl
    returned (keeps _)

end Urp
