import Urp.ChatProgress
import Urp.ExecutionProgress
import Urp.ObjectPuts

/-!
# Progress of puts

An executable put returns, and leaves a store in which the next one returns.
-/

namespace Urp

open Python Program

/-! ## Executions leave the policies -/

section Policies

variable (host : Host) (execution : Execution) (prepared : Prepared)

theorem frames_policies_admitPrepared :
    Frames World.policies (admitPrepared host execution prepared) := by
  refine frames_bind
    (beside_policies.requirePolicyApproval host execution prepared) fun _ => ?_
  refine frames_bind (beside_policies.recordExecution host execution _)
    fun _ => ?_
  refine frames_bind (beside_policies.recordExecution host execution _)
    fun _ => ?_
  exact frames_policies_storePlanWithAudit host execution.session _ _

theorem frames_policies_executeExactObject :
    Frames World.policies (executeExactObject host execution) := by
  refine frames_bind (frames_lift _) fun prepared => ?_
  refine frames_bind (frames_policies_admitPrepared host execution prepared)
    fun _ => ?_
  apply frames_ite
  · exact beside_policies.recordObservation host execution prepared
  · exact beside_policies.storeObject host execution prepared

end Policies

/-! ## Puts are compared by their data -/

theorem Chunk.eq_of_data {chunk other : Chunk} (offset : chunk.offset = other.offset)
    (data : chunk.data = other.data) : chunk = other := by
  obtain ⟨_, _, _, rfl⟩ := chunk
  obtain ⟨_, _, _, rfl⟩ := other
  cases offset
  cases data
  rfl

instance : DecidableEq Put := fun put other =>
  decidable_of_iff (put.tenant = other.tenant ∧
      put.nameSpace = other.nameSpace ∧ put.chunk.offset = other.chunk.offset ∧
      put.chunk.data = other.chunk.data ∧ put.compress = other.compress) <| by
    constructor
    · rintro ⟨tenant, nameSpace, offset, data, compress⟩
      obtain ⟨_, _, _, _⟩ := put
      obtain ⟨_, _, _, _⟩ := other
      cases tenant
      cases nameSpace
      cases compress
      cases Chunk.eq_of_data offset data
      rfl
    · rintro rfl
      exact ⟨rfl, rfl, rfl, rfl, rfl⟩

/-! ## A put returns -/

namespace LocalS3Adapter

/-- The work unit of a put that draws from this supply. -/
def putWorkUnitAt (host : Host) (tenant : String) (put : ObjectPut)
    (supply : Supply) : WorkUnit where
  kind := .byteObject
  tenant
  logicalRef := "s3://" ++ put.bucket ++ "/" ++ put.key
  payload := .bytes put.body
  nameSpace := put.nameSpace
  metadata := putMetadata put
  policyContext := policyContext put.tags
  traceId := host.idText "tr" supply.nextId
  id := host.idText "wu" (supply.nextId + 1)
  createdAt := host.isoformat (host.clock supply.tick)

/-- The call of `execute_work_unit` that a put makes. -/
def putCall (host : Host) (session : Session) (tenant : String)
    (put : ObjectPut) (supply : Supply) : WorkUnitCall where
  session
  workUnit := putWorkUnitAt host tenant put supply
  requestedMode := some "enforce"

section Returns

variable {host : Host} {session : Session} {tenant : String} {put : ObjectPut}
variable {gateway : Gateway} {bundle : Option PolicyBundle}
variable {prepared : Prepared} {chunk : Chunk} {puts : List Put}

/-- A put goes on in a store like the one it found. -/
structure GoesOn (host : Host) (puts : List Put) (gateway later : Gateway) :
    Prop where
  healthy : later.world.Healthy
  sound : later.world.chunks.Sound host puts
  policies : later.world.policies = gateway.world.policies
  drawn : later.supply.nextId ≤ gateway.supply.nextId + 9

/-- A put whose execution is admissible returns. -/
theorem putObject_returns (reliable : host.Reliable)
    (codecs : host.CodecsRoundTrip) (collisionFree : CollisionFree puts)
    (checked : (putCall host session tenant put gateway.supply).checked host =
      .ok .enforce)
    (resolved : resolveActivePolicyBundle session (policyName host
        (putWorkUnitAt host tenant put gateway.supply)) gateway.world.policies =
      (.ok bundle, gateway.world.policies))
    (admissible : ((putCall host session tenant put gateway.supply).execution
      .enforce bundle).Admissible host prepared [chunk])
    (subset : ∀ own ∈ ((putCall host session tenant put
      gateway.supply).execution .enforce bundle).puts host, own ∈ puts)
    (healthy : gateway.world.Healthy)
    (sound : gateway.world.chunks.Sound host puts)
    (identifier : ∀ k ≤ gateway.supply.nextId + 6,
      validateIdentifier (host.idText "mf" k) "manifest id" "mf_" =
        .ok (host.idText "mf" k)) :
    Returns (putObject host session tenant put) gateway
      fun _ later => GoesOn host puts gateway later := by
  let call := putCall host session tenant put gateway.supply
  let begun := World.supplyLens.set gateway.world
    ⟨gateway.supply.nextId + 2, gateway.supply.tick + 1⟩
  let execution := call.execution .enforce bundle
  have drawn : focus Gateway.worldLens (focus World.supplyLens
      (putWorkUnit host tenant put)) gateway =
        (.ok call.workUnit, Gateway.worldLens.set gateway begun) := rfl
  have stored : Returns (executeExactObject host execution) begun
      fun _ later => GoesOn host puts gateway
        (Gateway.worldLens.set gateway later) := by
    obtain ⟨result, later, run, laterHealthy, nextId, manifest, outcome, -⟩ :=
      @Execution.Admissible.returns host reliable execution prepared [chunk]
        codecs puts collisionFree admissible subset begun healthy sound
        fun k bound => identifier k (by
          change k ≤ gateway.supply.nextId + 2 + 1 + 3 at bound
          omega)
    have policies := frames_policies_executeExactObject host execution begun
    rw [run] at policies
    refine ⟨result, later, run, laterHealthy, ?_, policies, ?_⟩
    · cases outcome with
      | observed _ chunks =>
          change later.chunks.Sound host puts
          rw [chunks]
          exact sound
      | stored mode cut ran =>
          have own := Execution.puts_eq admissible.ready mode cut
          rw [← own] at ran
          exact ((sound.ensures_puts codecs collisionFree subset).of_ok ran).1
    · change later.supply.nextId ≤ gateway.supply.nextId + 2 + 1 + 6 at nextId
      exact nextId
  obtain ⟨result, later, run, goes⟩ := stored
  have executed : executeWorkUnit host call (Gateway.worldLens.set gateway begun)
      = (.ok result, Gateway.worldLens.set gateway later) := by
    have found : focus Gateway.worldLens (focus World.policiesLens
        (resolveActivePolicyBundle call.session
          (policyName host call.workUnit))) (Gateway.worldLens.set gateway begun) =
        (.ok bundle, Gateway.worldLens.set gateway begun) :=
      focus_of_run (focus_of_run resolved)
    unfold executeWorkUnit
    rw [checked, lift_ok_bind, bind_ok found]
    exact focus_of_run run
  let stored : StoredObject := {
    bucket := put.bucket
    key := put.key
    workUnitId := result.workUnitId
    manifestId := result.manifestId
    etag := Value.get (result.output.entries?.getD []) "sha256" }
  have ran : putObject host session tenant put gateway =
      (.ok stored, Gateway.worldLens.set gateway later) := by
    unfold putObject
    rw [bind_ok drawn]
    exact bind_ok executed
  exact ⟨stored, _, ran, goes⟩

end Returns

/-! ## Puts for fixed inputs -/

def samplePut (bucket : String) : ObjectPut where
  bucket
  key := "a"
  body := [104, 105]

/-- The execution of a sample put that draws from identifier `k` on. -/
def sampleExecutionOf (bucket : String) (k : Nat) : Execution :=
  (putCall Host.counting {} "acme" (samplePut bucket) ⟨k, 0⟩).execution .enforce
    none

/-- The chunk that every sample put stores. -/
def samplePuts : List Put := (sampleExecutionOf "docs" 0).puts Host.counting

def samplePutPasses (bucket : String) (k : Nat) : Bool :=
  Passes (· = .enforce) ((putCall Host.counting {} "acme" (samplePut bucket)
      ⟨k, 0⟩).checked Host.counting) &&
    (sampleExecutionOf bucket k).passesWith Host.counting (fun _ => true) &&
    (sampleExecutionOf bucket k).puts Host.counting == samplePuts

theorem samplePuts_collisionFree : CollisionFree samplePuts := by
  have passes : (sampleExecutionOf "docs" 0).passesWith Host.counting
      (fun _ => true) = true := by
    decide +kernel
  obtain ⟨_, _, admissible, -⟩ := Execution.admissible_of_passes passes
  exact admissible.collisionFree

/-- A sample put returns early in a run under no policy. -/
theorem samplePut_returns {bucket : String} {gateway : Gateway}
    (passes : samplePutPasses bucket gateway.supply.nextId = true)
    (early : gateway.supply.nextId ≤ 9) (policies : gateway.world.policies = {})
    (healthy : gateway.world.Healthy)
    (sound : gateway.world.chunks.Sound Host.counting samplePuts) :
    Returns (putObject Host.counting {} "acme" (samplePut bucket)) gateway
      fun _ later => GoesOn Host.counting samplePuts gateway later := by
  simp only [samplePutPasses, Bool.and_eq_true, beq_iff_eq] at passes
  obtain ⟨⟨checks, executes⟩, same⟩ := passes
  obtain ⟨mode, checked, enforced⟩ := exists_of_passes checks
  obtain ⟨prepared, chunk, admissible, -⟩ :=
    Execution.admissible_of_passes executes
  rw [of_decide_eq_true enforced] at checked
  have resolved : resolveActivePolicyBundle {} (policyName Host.counting
      (putWorkUnitAt Host.counting "acme" (samplePut bucket) gateway.supply))
        gateway.world.policies = (.ok none, gateway.world.policies) := by
    rw [policies]
    rfl
  have subset : ∀ own ∈ (sampleExecutionOf bucket gateway.supply.nextId).puts
      Host.counting, own ∈ samplePuts := by
    intro own member
    rw [← same]
    exact member
  apply putObject_returns Host.counting_reliable Host.counting_codecs
    samplePuts_collisionFree checked resolved admissible subset healthy sound
  intro k bound
  exact Host.counting_identifier
    (Nat.lt_of_le_of_lt (bound.trans (by omega)) (by decide : 15 < 10 ^ 32))

theorem samplePut_passes_first :
    (["docs", "logs"].all fun bucket => samplePutPasses bucket 0) = true := by
  decide +kernel

/-- So does one in an empty state directory. -/
theorem samplePut_returns_first (bucket : String)
    (named : bucket ∈ ["docs", "logs"]) :
    Returns (putObject Host.counting {} "acme" (samplePut bucket)) {}
      fun _ later => GoesOn Host.counting samplePuts {} later :=
  @samplePut_returns bucket {}
    (List.all_eq_true.mp samplePut_passes_first bucket named) (Nat.zero_le 9)
    rfl World.healthy_empty ChunkFiles.sound_empty

end LocalS3Adapter

end Urp
