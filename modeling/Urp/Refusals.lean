import Urp.ExecutionProgress
import Urp.WorkUnitReports

/-!
# When an execution returns

An execution of a work unit that names no approval returns exactly when its
arguments and the active policy let it, as long as the ledger reads back and
the chunk store holds what was put there.
-/

namespace Urp

open Python Program

/-! ## What lets an execution pass -/

/-- Nothing in the arguments of the execution refuses it. -/
structure Execution.Allowed (host : Host) (execution : Execution)
    (prepared : Prepared) : Prop where
  admitted : execution.Admitted host prepared
  verifiers : prepared.mode = .observe ∨
    requireExactVerifiers prepared.policy.requiredVerifiers true
      execution.workUnit.id = .ok ()

/-- The default chunk sizes are never refused. -/
theorem exists_planChunks (plan : Plan) (payload : Bytes) :
    ∃ chunks, planChunks plan payload = .ok chunks := by
  have sized : ∀ size, 0 < size →
      ∃ chunks, fixedChunks payload size = .ok chunks := by
    intro size positive
    exact ⟨_, if_neg (Nat.pos_iff_ne_zero.mp positive)⟩
  unfold planChunks
  split
  · unfold contentDefinedChunks
    split
    · exact ⟨_, rfl⟩
    · exact ⟨_, if_neg (by decide)⟩
  · split
    · exact sized _ (by decide)
    · exact sized _ (by omega)

section Returned

variable {host : Host} {execution : Execution} {prepared : Prepared}

/-- An event that was recorded names a tenant of the session. -/
theorem tenant_of_recorded {session : Session} {event : LedgerEvent}
    {world later : World}
    (run : record host session event world = (.ok (), later)) :
    event.tenant ≠ "" ∧ requireTenant session event.tenant = .ok () := by
  obtain ⟨_, _, run, -⟩ := bind_eq_ok_iff.mp run
  have recorded := run_of_focus run
  obtain ⟨stamped, _, drawn, appended⟩ := bind_eq_ok_iff.mp recorded
  have same : stamped.tenant = event.tenant := by
    have draws := run_of_focus drawn
    rw [stamp_run] at draws
    rw [← Except.ok.inj (Prod.mk.inj draws).1]
    rfl
  obtain ⟨_, _, checked, appended⟩ := bind_eq_ok_iff.mp appended
  have admitted := congrArg Prod.fst checked
  obtain ⟨_, _, _, appended⟩ := bind_eq_ok_iff.mp appended
  obtain ⟨_, _, validated, -⟩ := bind_eq_ok_iff.mp appended
  have valid := congrArg Prod.fst validated
  rw [← same]
  refine ⟨?_, admitted⟩
  intro empty
  simp [Program.lift, validateLedgerEvent, validateNamedSchema,
    isValidLedgerEvent, LedgerEvent.withChainHash, empty] at valid

/-- What was verified passed the required verifiers. -/
theorem verifiers_of_verified {segments : List Segment}
    {verification : VerificationResult} {world later : World}
    (run : verifyRestore host execution prepared segments world =
      (.ok verification, later)) :
    requireExactVerifiers prepared.policy.requiredVerifiers true
      execution.workUnit.id = .ok () := by
  unfold verifyRestore at run
  obtain ⟨restored, _, _, run⟩ := bind_eq_ok_iff.mp run
  by_cases accepted :
      (verifySha256 restored (sha256 prepared.payload)).accepted = true
  · simp only [accepted, if_true] at run
    obtain ⟨_, _, passed, -⟩ := bind_eq_ok_iff.mp run
    exact congrArg Prod.fst passed
  · rw [if_neg accepted] at run
    obtain ⟨_, _, _, raised⟩ := bind_eq_ok_iff.mp run
    cases raised

/-- An execution that returns was let through. -/
theorem Execution.allowed_of_returned
    (unnamed :
      (execution.workUnit.policyContext.get "approval_id").isTruthy = false)
    {world later : World} {result : ExecutionResult}
    (run : executeExactObject host execution world = (.ok result, later)) :
    ∃ prepared, execution.Allowed host prepared := by
  obtain ⟨prepared, _, lifted, run⟩ := bind_eq_ok_iff.mp run
  have ready : execution.prepare host = .ok prepared :=
    congrArg Prod.fst lifted
  obtain ⟨_, _, admits, run⟩ := bind_eq_ok_iff.mp run
  obtain ⟨_, _, approved, admits⟩ := bind_eq_ok_iff.mp admits
  obtain ⟨_, _, received, -⟩ := bind_eq_ok_iff.mp admits
  obtain ⟨tenant, admitted⟩ := tenant_of_recorded received
  have unapproved : prepared.policy.requireApproval = false := by
    rw [Bool.eq_false_iff]
    intro required
    rw [approval_supplied approved required] at unnamed
    cases unnamed
  refine ⟨prepared, ⟨ready, unapproved, tenant, admitted⟩, ?_⟩
  by_cases mode : prepared.mode = .observe
  · exact .inl mode
  · rw [if_neg mode] at run
    obtain ⟨_, _, _, run⟩ := bind_eq_ok_iff.mp run
    obtain ⟨_, _, _, run⟩ := bind_eq_ok_iff.mp run
    obtain ⟨_, _, verified, -⟩ := bind_eq_ok_iff.mp run
    exact .inr (verifiers_of_verified verified)

end Returned

/-! ## Executions in a sound world -/

/-- What the host does for an execution: its identifiers are manifest
identifiers, its times are times and its codecs are lossless. -/
structure Host.Dependable (host : Host) : Prop where
  reliable : host.Reliable
  codecs : host.CodecsRoundTrip
  identifier : ∀ k, validateIdentifier (host.idText "mf" k) "manifest id"
    "mf_" = .ok (host.idText "mf" k)

/-- The ledger reads back, and the chunk store holds what the puts left. -/
structure World.Intact (host : Host) (puts : List Put) (world : World) :
    Prop where
  healthy : world.Healthy
  sound : world.chunks.Sound host puts

theorem ChunkFiles.Sound.mono {host : Host} {puts others : List Put}
    {state : ChunkFiles} (sound : state.Sound host puts)
    (subset : ∀ put ∈ puts, put ∈ others) : state.Sound host others where
  rows key row found := by
    obtain ⟨put, member, same⟩ := sound.rows key row found
    exact ⟨put, subset put member, same⟩
  files path raw found := by
    obtain ⟨put, member, same⟩ := sound.files path raw found
    exact ⟨put, subset put member, same⟩

section Allowed

variable {host : Host} (dependable : host.Dependable) {puts : List Put}

include dependable

/-- An execution that is let through returns. -/
theorem Execution.Allowed.returns {execution : Execution} {prepared : Prepared}
    (allowed : execution.Allowed host prepared)
    (collisionFree : CollisionFree (execution.puts host ++ puts))
    {world : World} (intact : world.Intact host puts) :
    ∃ result later, executeExactObject host execution world =
      (.ok result, later) := by
  have reliable := dependable.reliable
  rcases allowed.verifiers with mode | verifiers
  · have observed := allowed.admitted.observes reliable mode intact.healthy
      (dependable.identifier _)
    obtain ⟨result, later, run, -⟩ := Ensures.returns observed
    exact ⟨result, later, run⟩
  · obtain ⟨chunks, cut⟩ := exists_planChunks prepared.plan prepared.payload
    have admissible : execution.Admissible host prepared chunks :=
      { ready := allowed.admitted.ready
        cut
        unapproved := allowed.admitted.unapproved
        verifiers
        tenant := allowed.admitted.tenant
        admitted := allowed.admitted.admitted }
    have sound := intact.sound.mono
      (fun put member => List.mem_append_right (execution.puts host) member)
    obtain ⟨result, later, run, -⟩ := admissible.returns reliable
      dependable.codecs collisionFree
      (fun put member => List.mem_append_left puts member) intact.healthy sound
      (fun k _ => dependable.identifier k)
    exact ⟨result, later, run⟩

/-- An execution without an approval returns exactly if it is let through. -/
theorem Execution.returns_iff {execution : Execution}
    (unnamed :
      (execution.workUnit.policyContext.get "approval_id").isTruthy = false)
    (collisionFree : CollisionFree (execution.puts host ++ puts))
    {world : World} (intact : world.Intact host puts) :
    (∃ result later, executeExactObject host execution world =
        (.ok result, later)) ↔
      ∃ prepared, execution.Allowed host prepared := by
  constructor
  · rintro ⟨result, later, run⟩
    exact Execution.allowed_of_returned unnamed run
  · rintro ⟨prepared, allowed⟩
    exact allowed.returns dependable collisionFree intact

end Allowed

/-! ## Work units -/

namespace WorkUnitCall

variable (host : Host) (call : WorkUnitCall) (policies : PolicyFiles)

/-- The execution that the call starts, in the mode and under the bundle that
it finds. -/
def Starts (execution : Execution) : Prop :=
  ∃ mode bundle, call.checked host = .ok mode ∧
    (resolveActivePolicyBundle call.session (policyName host call.workUnit)
      policies).1 = .ok bundle ∧
    execution = call.execution mode bundle

/-- The call is valid, a bundle is found, and nothing refuses the execution
under it. -/
def IsAllowed : Prop :=
  ∃ execution prepared, call.Starts host policies execution ∧
    execution.Allowed host prepared

end WorkUnitCall

/-- A work unit of an exact kind that names no approval is executed exactly if
its call is allowed. -/
theorem executeWorkUnit_returns_iff {host : Host}
    (dependable : host.Dependable) {puts : List Put} {call : WorkUnitCall}
    (exact : call.workUnit.kind ∈ exactKinds)
    (unnamed :
      (call.workUnit.policyContext.get "approval_id").isTruthy = false)
    {gateway : Gateway}
    (collisionFree : ∀ execution,
      call.Starts host gateway.world.policies execution →
        CollisionFree (execution.puts host ++ puts))
    (intact : gateway.world.Intact host puts) :
    (∃ result later, executeWorkUnit host call gateway = (.ok result, later)) ↔
      call.IsAllowed host gateway.world.policies := by
  have object : call.workUnit.kind ≠ .promptRequest := by
    intro prompt
    rw [prompt] at exact
    revert exact
    decide
  have executes : ∀ mode bundle,
      executeObject host (call.execution mode bundle) =
        executeExactObject host (call.execution mode bundle) :=
    fun mode bundle => if_pos exact
  constructor
  · rintro ⟨result, later, run⟩
    obtain ⟨mode, _, checked, run⟩ := bind_eq_ok_iff.mp run
    obtain ⟨passed, rfl⟩ := Prod.mk.inj checked
    obtain ⟨bundle, _, resolved, run⟩ := bind_eq_ok_iff.mp run
    rw [if_neg object, executes] at run
    obtain ⟨prepared, allowed⟩ :=
      Execution.allowed_of_returned unnamed (run_of_focus run)
    have found := congrArg Prod.fst (run_of_focus (run_of_focus resolved))
    exact ⟨_, prepared, ⟨mode, bundle, passed, found, rfl⟩, allowed⟩
  · rintro ⟨execution, prepared, starts, allowed⟩
    have apart := collisionFree execution starts
    obtain ⟨mode, bundle, checked, found, rfl⟩ := starts
    obtain ⟨policies, resolved⟩ : ∃ policies, resolveActivePolicyBundle
        call.session (policyName host call.workUnit) gateway.world.policies =
          (.ok bundle, policies) := ⟨_, Prod.ext found rfl⟩
    have ready : World.Intact host puts
        (World.policiesLens.set gateway.world policies) := ⟨intact.healthy,
      intact.sound⟩
    obtain ⟨result, later, run⟩ := allowed.returns dependable apart ready
    have found : focus Gateway.worldLens (focus World.policiesLens
        (resolveActivePolicyBundle call.session
          (policyName host call.workUnit))) gateway =
        (.ok bundle, Gateway.worldLens.set gateway
          (World.policiesLens.set gateway.world policies)) :=
      focus_of_run (focus_of_run resolved)
    have ran : executeWorkUnit host call gateway =
        (.ok result, Gateway.worldLens.set gateway later) := by
      unfold executeWorkUnit
      rw [checked, lift_ok_bind, bind_ok found, if_neg object, executes]
      exact focus_of_run run
    exact ⟨result, _, ran⟩

end Urp
