import Urp.BucketRuns
import Urp.ObjectReads

/-!
# Retrieval of objects over runs

However the adapters of several tenants put and delete objects in one state
directory, an object reads back as it was put, for its own tenant and for no
other.
-/

namespace Urp

open Python Program LocalS3Adapter

/-- A call of the adapter of a tenant. -/
structure TenantCall where
  tenant : String
  call : ObjectCall

abbrev TenantVisit : Type := Run.Visit Gateway TenantCall ObjectReply

def tenantStep (host : Host) (gateway : Gateway) (call : TenantCall) :
    ObjectReply × Gateway :=
  objectStep host call.tenant gateway call.call

/-- The execution that the call makes if it gets that far. -/
def TenantCall.execution? (host : Host) (gateway : Gateway)
    (call : TenantCall) : Option Execution :=
  match call.call with
  | .put session put => putExecution? host session call.tenant put gateway
  | .delete .. => none

/-- The executions that the calls of a run make. -/
def runExecutions (host : Host) (gateway : Gateway) (calls : List TenantCall) :
    List Execution :=
  (Run.visits (tenantStep host) gateway calls).filterMap fun v =>
    v.input.execution? host v.before

/-- The call is a put of the tenant, and it wrote the manifest. -/
structure PutWrote (v : TenantVisit) (tenant : String) (put : ObjectPut)
    (manifestId : String) : Prop where
  input : ∃ session, v.input = ⟨tenant, .put session put⟩
  missing : v.before.world.manifests.lookup manifestId = none
  found : ∃ manifest,
    v.after.world.manifests.lookup manifestId = some manifest

/-- Every object that was put reads back as it was put, for the sessions that
may act for its tenant; a read that returns is of an object that was put by
the tenant; and a put that returned wrote the object that it names. -/
structure Retrieves (host : Host) (history : List TenantVisit)
    (gateway : Gateway) : Prop where
  reads : ∀ v ∈ history, ∀ tenant put manifestId,
    PutWrote v tenant put manifestId → ∀ session,
      requireTenant session tenant = .ok () →
        Reads host session tenant put manifestId gateway.world
  refuses : ∀ session tenant manifestId,
    (¬ ∃ v ∈ history, ∃ put, PutWrote v tenant put manifestId) ∨
      requireTenant session tenant ≠ .ok () →
      (∀ body, (getObject host session tenant manifestId gateway.world).1 ≠
        .ok body) ∧
      (∀ start stop body,
        (rangeRead host session tenant manifestId start stop gateway.world).1 ≠
          .ok body) ∧
      ∀ head, (headObject session tenant manifestId gateway.world).1 ≠ .ok head
  names : ∀ v ∈ history, ∀ session tenant put stored,
    v.input = ⟨tenant, .put session put⟩ → v.output = .stored (.ok stored) →
      PutWrote v tenant put stored.manifestId

/-! ## What a run keeps -/

/-- The manifests of the store are those that were put, and store what was
put. -/
structure Shelf (host : Host) (puts : List Put) (history : List TenantVisit)
    (gateway : Gateway) : Prop where
  restorable : gateway.world.Restorable host puts
  named : ∀ {manifestId manifest},
    gateway.world.manifests.lookup manifestId = some manifest →
      manifest.manifestId = manifestId
  stored : ∀ v ∈ history, ∀ {tenant put manifestId},
    PutWrote v tenant put manifestId →
      LocalS3Adapter.Stores host tenant put manifestId gateway.world
  only : ∀ {manifestId manifest},
    gateway.world.manifests.lookup manifestId = some manifest →
      ∃ v ∈ history, ∃ put, PutWrote v manifest.tenant put manifestId

section Steps

variable {host : Host} {puts : List Put} {history : List TenantVisit}
variable {gateway : Gateway}

theorem shelf_empty (noChunks : gateway.world.chunks = {})
    (noManifests : gateway.world.manifests = ∅) :
    Shelf host puts [] gateway := by
  refine ⟨World.restorable_empty noChunks noManifests, ?_, ?_, ?_⟩
  · intro manifestId manifest found
    rw [noManifests] at found
    cases found
  · intro v member
    cases member
  · intro manifestId manifest found
    rw [noManifests] at found
    cases found

theorem Shelf.retrieves (shelf : Shelf host puts history gateway)
    (names : ∀ v ∈ history, ∀ session tenant put stored,
      v.input = ⟨tenant, .put session put⟩ → v.output = .stored (.ok stored) →
        PutWrote v tenant put stored.manifestId) :
    Retrieves host history gateway := by
  refine ⟨fun v member tenant put manifestId wrote session admitted =>
    (shelf.stored v member wrote).reads admitted, ?_, names⟩
  intro session tenant manifestId refused
  have owned : ∀ {α : Type} {next : Manifest → Program World PyException α}
      {value : α}, ((focus World.manifestsLens
        (FileManifestStore.getForTenant session manifestId tenant) >>= next)
          gateway.world).1 ≠ .ok value := by
    intro α next value returned
    obtain ⟨admitted, manifest, found, rfl⟩ :=
      ensures_owned.of_fst_ok returned
    rcases refused with unwritten | unadmitted
    · exact unwritten (shelf.only found)
    · exact unadmitted admitted
  exact ⟨fun _ => owned, fun _ _ _ => owned, fun _ => owned⟩

/-- A call that adds no manifest keeps the shelf. -/
theorem Shelf.of_kept {v : TenantVisit}
    (shelf : Shelf host puts history v.before)
    (restorable : v.after.world.Restorable host puts)
    (kept : ∀ {tenant put manifestId},
      LocalS3Adapter.Stores host tenant put manifestId v.before.world →
        LocalS3Adapter.Stores host tenant put manifestId v.after.world)
    (old : ∀ {manifestId manifest},
      v.after.world.manifests.lookup manifestId = some manifest →
        manifest.manifestId = manifestId ∧ ∃ before,
          v.before.world.manifests.lookup manifestId = some before ∧
            before.tenant = manifest.tenant) :
    Shelf host puts (history ++ [v]) v.after := by
  refine ⟨restorable, fun found => (old found).1, ?_, ?_⟩
  · rw [List.forall_mem_append, List.forall_mem_singleton]
    constructor
    · intro w member tenant put manifestId wrote
      exact kept (shelf.stored w member wrote)
    · intro tenant put manifestId wrote
      obtain ⟨manifest, found⟩ := wrote.found
      obtain ⟨-, before, present, -⟩ := old found
      rw [wrote.missing] at present
      cases present
  · intro manifestId manifest found
    obtain ⟨-, before, present, same⟩ := old found
    obtain ⟨w, member, put, wrote⟩ := shelf.only present
    rw [same] at wrote
    exact ⟨w, List.mem_append_left _ member, put, wrote⟩

theorem LocalS3Adapter.Stores.kept {tenant manifestId : String} {put : ObjectPut}
    {world later : World} (extended : world.Extends later)
    (stores : LocalS3Adapter.Stores host tenant put manifestId world) :
    LocalS3Adapter.Stores host tenant put manifestId later := by
  obtain ⟨accepted, manifest, found, same, owner, lineage, spans⟩ := stores
  exact ⟨accepted, manifest, extended.manifests _ _ found, same, owner, lineage,
    spans.kept extended.chunks⟩

theorem shelf_delete {v : TenantVisit} {session : Session}
    {tenant target actor : String} {allowDelete : Bool}
    (shelf : Shelf host puts history v.before)
    (after : v.after.world = (deleteObject host session tenant target actor
      allowDelete v.before.world).2) :
    Shelf host puts (history ++ [v]) v.after := by
  have chunks := frames_chunks_deleteObject host session tenant target actor
    allowDelete v.before.world
  rw [← after] at chunks
  have kept : ∀ {owner put manifestId},
      LocalS3Adapter.Stores host owner put manifestId v.before.world →
        LocalS3Adapter.Stores host owner put manifestId v.after.world := by
    intro owner put manifestId stores
    rw [after]
    exact stores.delete shelf.named
  rcases deleteObject_marks host session tenant target actor allowDelete
    v.before.world with ⟨manifests, supply⟩ | ⟨marked, found, manifests, supply⟩
  · rw [← after] at manifests supply
    refine shelf.of_kept ⟨?_, ?_⟩ kept ?_
    · rw [chunks]
      exact shelf.restorable.sound
    · intro manifestId manifest found
      rw [manifests] at found
      obtain ⟨k, below, same⟩ := shelf.restorable.identifiers _ _ found
      exact ⟨k, Nat.lt_of_lt_of_le below supply.1, same⟩
    · intro manifestId manifest found
      rw [manifests] at found
      exact ⟨shelf.named found, manifest, found, rfl⟩
  · rw [← after] at manifests supply
    have key := shelf.named found
    have old : ∀ {manifestId manifest},
        v.after.world.manifests.lookup manifestId = some manifest →
          manifest.manifestId = manifestId ∧ ∃ before,
            v.before.world.manifests.lookup manifestId = some before ∧
              before.tenant = manifest.tenant := by
      intro manifestId manifest present
      rw [manifests, key, Dict.lookup_insert] at present
      by_cases same : target = manifestId
      · rw [if_pos same] at present
        cases present
        rw [← same]
        exact ⟨rfl, marked, found, rfl⟩
      · rw [if_neg same] at present
        exact ⟨shelf.named present, manifest, present, rfl⟩
    refine shelf.of_kept ⟨?_, ?_⟩ kept old
    · rw [chunks]
      exact shelf.restorable.sound
    · intro manifestId manifest present
      obtain ⟨-, before, earlier, -⟩ := old present
      obtain ⟨k, below, same⟩ := shelf.restorable.identifiers _ _ earlier
      exact ⟨k, Nat.lt_of_lt_of_le below supply.1, same⟩

theorem shelf_quiet {v : TenantVisit}
    (shelf : Shelf host puts history v.before)
    (quiet : v.before.world.Quiet v.after.world) :
    Shelf host puts (history ++ [v]) v.after := by
  obtain ⟨chunks, manifests, supply⟩ := quiet
  have kept : v.before.world.Extends v.after.world := by
    constructor
    · rw [chunks]
      exact .refl _
    · intro manifestId manifest found
      rw [manifests]
      exact found
  refine shelf.of_kept ⟨?_, ?_⟩ (fun stores => stores.kept kept) ?_
  · rw [chunks]
    exact shelf.restorable.sound
  · intro manifestId manifest found
    rw [manifests] at found
    obtain ⟨k, below, same⟩ := shelf.restorable.identifiers _ _ found
    exact ⟨k, Nat.lt_of_lt_of_le below supply.1, same⟩
  · intro manifestId manifest found
    rw [manifests] at found
    exact ⟨shelf.named found, manifest, found, rfl⟩

end Steps

section Puts

variable {host : Host} (codecs : host.CodecsRoundTrip)
variable (fresh : Function.Injective host.uuid4)
variable {executions : List Execution}
variable (collisionFree : CollisionFree
  (executions.flatMap (Execution.puts host)))
variable {history : List TenantVisit} {v : TenantVisit} {session : Session}
variable {tenant : String} {put : ObjectPut} {execution : Execution}
variable {prepared : Prepared} {wrote : Option Manifest}

/-- The execution of a put is enforced and of the put's body. -/
theorem prepared_of_put
    (own : putExecution? host session tenant put v.before = some execution)
    (ready : execution.prepare host = .ok prepared) :
    prepared.mode = .enforce ∧ prepared.payload = put.body ∧
      execution.workUnit.tenant = tenant ∧
        storedLineage execution = putLineage put := by
  unfold putExecution? at own
  simp only at own
  split at own
  · cases own
  · cases own
    obtain ⟨modeRun, payloadRun, -⟩ := Execution.prepare_eq_ok ready
    have asked : executionMode session (some "enforce") = .ok prepared.mode :=
      modeRun
    rw [executionMode_enforce] at asked
    have read : (.ok put.body : Except PyException Bytes) =
        .ok prepared.payload := payloadRun
    exact ⟨(Except.ok.inj asked).symm, (Except.ok.inj read).symm, rfl, rfl⟩

include fresh in
/-- A manifest after an execution is an earlier one or is its own. -/
theorem Outcome.added {world later : World} {puts : List Put}
    (outcome : Outcome host execution prepared world later wrote)
    (restorable : world.Restorable host puts) (mode : prepared.mode ≠ .observe)
    {manifestId : String} {new : Manifest}
    (found : later.manifests.lookup manifestId = some new) :
    world.manifests.lookup manifestId = some new ∨
      (world.manifests.lookup manifestId = none ∧ new.manifestId = manifestId ∧
        new.tenant = execution.workUnit.tenant ∧
          new.lineage = (storedLineage execution).reloaded) := by
  cases outcome with
  | unchanged quiet =>
      rw [quiet.manifests] at found
      exact .inl found
  | observed observes => exact absurd observes mode
  | failed _ _ _ manifests =>
      rw [manifests] at found
      exact .inl found
  | stored _ _ _ _ lineage written =>
      obtain ⟨kept, all⟩ := written.manifests_kept restorable
        (written.absent fresh restorable)
      cases before : world.manifests.lookup manifestId with
      | some old =>
          rw [kept _ _ before] at found
          exact .inl found
      | none =>
          obtain ⟨rfl, rfl⟩ := (all _ _ found).2 before
          obtain ⟨_, _, _, _, _, _, made⟩ := written.made
          refine .inr ⟨rfl, rfl, ?_, congrArg Object.reloaded lineage⟩
          exact congrArg Manifest.tenant made

include codecs fresh collisionFree

theorem shelf_put (member : execution ∈ executions)
    (input : v.input = ⟨tenant, .put session put⟩)
    (own : putExecution? host session tenant put v.before = some execution)
    (ready : execution.prepare host = .ok prepared)
    (shelf : Shelf host (executions.flatMap (Execution.puts host)) history
      v.before)
    (outcome : Outcome host execution prepared v.before.world v.after.world
      wrote) :
    Shelf host (executions.flatMap (Execution.puts host)) (history ++ [v])
      v.after := by
  obtain ⟨enforced, body, owner, lineage⟩ := prepared_of_put own ready
  have mode : prepared.mode ≠ .observe := by
    rw [enforced]
    exact Mode.noConfusion
  have subset : ∀ own ∈ execution.puts host,
      own ∈ executions.flatMap (Execution.puts host) :=
    fun own made => List.mem_flatMap.mpr ⟨execution, member, made⟩
  have step := outcome.step codecs fresh collisionFree ready subset
    shelf.restorable
  have added := fun manifestId new => @Outcome.added host fresh execution
    prepared wrote v.before.world v.after.world _ outcome shelf.restorable mode
    manifestId new
  refine ⟨step.restorable, ?_, ?_, ?_⟩
  · intro manifestId manifest found
    rcases added _ _ found with present | ⟨-, same, -⟩
    · exact shelf.named present
    · exact same
  · rw [List.forall_mem_append, List.forall_mem_singleton]
    constructor
    · intro w earlier other written manifestId before
      exact (shelf.stored w earlier before).kept step.kept
    · intro other written manifestId new
      obtain ⟨caller, request⟩ := new.input
      obtain ⟨manifest, found⟩ := new.found
      rw [input] at request
      cases request
      refine ⟨(step.wrote _ _ new.missing found mode).1, manifest, found, ?_⟩
      rcases added _ _ found with present | ⟨-, same, owned, line⟩
      · rw [new.missing] at present
        cases present
      · rw [← body]
        exact ⟨same, owned.trans owner, by rw [line, lineage],
          spans_of_outcome codecs fresh collisionFree member ready
            shelf.restorable outcome mode new.missing found⟩
  · intro manifestId manifest found
    rcases added _ _ found with present | ⟨missing, -, owned, -⟩
    · obtain ⟨w, earlier, other, before⟩ := shelf.only present
      exact ⟨w, List.mem_append_left _ earlier, other, before⟩
    · rw [owned, owner]
      exact ⟨v, by simp, put, ⟨session, input⟩, missing, manifest, found⟩

/-- Every call keeps the shelf, and a put that returns wrote what it names. -/
theorem shelf_step {gateway : Gateway} {call : TenantCall}
    (made : ∀ execution, call.execution? host gateway = some execution →
      execution ∈ executions)
    (shelf : Shelf host (executions.flatMap (Execution.puts host)) history
      gateway) :
    Shelf host (executions.flatMap (Execution.puts host))
        (history ++ [Run.visit (tenantStep host) gateway call])
        (tenantStep host gateway call).2 ∧
      ∀ session tenant put stored, call = ⟨tenant, .put session put⟩ →
        (tenantStep host gateway call).1 = .stored (.ok stored) →
          PutWrote (Run.visit (tenantStep host) gateway call) tenant put
            stored.manifestId := by
  obtain ⟨tenant, call⟩ := call
  cases call with
  | delete session target actor allowDelete =>
      have deleted : (Run.visit (tenantStep host) gateway
          ⟨tenant, .delete session target actor allowDelete⟩).after.world =
          (deleteObject host session tenant target actor allowDelete
            gateway.world).2 := rfl
      refine ⟨shelf_delete shelf deleted, ?_⟩
      intro caller owner put stored request
      cases request
  | put session put =>
      let v := Run.visit (tenantStep host) gateway ⟨tenant, .put session put⟩
      have spec := @ensures_putExecution host session tenant put gateway
      have after : v.after = (putObject host session tenant put gateway).2 := rfl
      constructor
      · rcases returned : putObject host session tenant put gateway with
          ⟨error | stored, later⟩
        · have after : v.after = later := congrArg Prod.snd returned
          rcases spec.of_error returned with
            quiet | ⟨execution, prepared, wrote, own, ready, outcome⟩
          · rw [← after] at quiet
            exact shelf_quiet (v := v) shelf quiet
          · rw [← after] at outcome
            exact shelf_put codecs fresh collisionFree (v := v) (made _ own) rfl
              own ready shelf outcome
        · have after : v.after = later := congrArg Prod.snd returned
          obtain ⟨execution, prepared, manifest, own, ready, outcome, -⟩ :=
            spec.of_ok returned
          rw [← after] at outcome
          exact shelf_put codecs fresh collisionFree (v := v) (made _ own) rfl
            own ready shelf outcome
      · intro caller owner other stored request output
        cases request
        have output : (putObject host session tenant put gateway).1 =
          .ok stored := by
          simpa only [tenantStep, objectStep, ObjectReply.stored.injEq]
            using output
        obtain ⟨execution, prepared, manifest, own, ready, outcome, same⟩ :=
          spec.of_fst_ok output
        rw [same]
        refine ⟨⟨session, rfl⟩,
          outcome.written.absent fresh shelf.restorable, manifest.reloaded, ?_⟩
        change v.after.world.manifests.lookup manifest.manifestId = _
        rw [after, outcome.written.manifests]
        exact Dict.lookup_insert_self _ _ _

end Puts

/-- The execution of a call of the run is one of the run. -/
theorem mem_runExecutions {host : Host} {gateway : Gateway}
    {calls early late : List TenantCall} {call : TenantCall}
    {execution : Execution} (split : calls = early ++ call :: late)
    (made : call.execution? host (Run.final (tenantStep host) gateway early) =
      some execution) : execution ∈ runExecutions host gateway calls := by
  rw [runExecutions, split, Run.visits_append, List.mem_filterMap]
  exact ⟨Run.visit (tenantStep host) _ call,
    List.mem_append_right _ List.mem_cons_self, made⟩

section Runs

variable {host : Host} (codecs : host.CodecsRoundTrip)
variable (fresh : Function.Injective host.uuid4)
variable {gateway : Gateway} (noChunks : gateway.world.chunks = {})
variable (noManifests : gateway.world.manifests = ∅)
variable {calls : List TenantCall}
variable (collisionFree : CollisionFree
  ((runExecutions host gateway calls).flatMap (Execution.puts host)))

include codecs fresh noChunks noManifests collisionFree

/-- After every part of the run the store holds what was put. -/
theorem shelf_run {early late : List TenantCall} (split : calls = early ++ late) :
    Shelf host ((runExecutions host gateway calls).flatMap (Execution.puts host))
      (Run.visits (tenantStep host) gateway early)
      (Run.final (tenantStep host) gateway early) := by
  induction early using List.reverseRecOn generalizing late with
  | nil => exact shelf_empty noChunks noManifests
  | append_singleton early call ih =>
      rw [List.append_assoc, List.singleton_append] at split
      have shelf := ih split
      rw [Run.final_append, Run.visits_append]
      exact (shelf_step codecs fresh collisionFree
        (fun _ => mem_runExecutions split) shelf).1

/-- Whatever puts and deletions the adapters of any tenants make from an empty
store, every object reads back. -/
theorem retrieves_run : Retrieves host
    (Run.visits (tenantStep host) gateway calls)
    (Run.final (tenantStep host) gateway calls) := by
  have shelf := shelf_run codecs fresh noChunks noManifests collisionFree
    (List.append_nil calls).symm
  apply shelf.retrieves
  intro v member session tenant put stored input output
  obtain ⟨past, rest, split⟩ := List.append_of_mem member
  obtain ⟨early, late, whole, -, visited⟩ := Run.visits_split split
  rw [visited] at output ⊢
  exact (shelf_step codecs fresh collisionFree (fun _ => mem_runExecutions whole)
    (shelf_run codecs fresh noChunks noManifests collisionFree whole)).2
      session tenant put stored input output

end Runs

/-- An object is put and deleted by its tenant. -/
def sampleTenantCalls : List TenantCall :=
  [⟨"acme", .put {} (samplePut "docs")⟩,
    ⟨"acme", .delete {} (Host.counting.idText "mf" 6) "local" true⟩]

theorem runExecutions_sample :
    runExecutions Host.counting {} sampleTenantCalls =
      [sampleExecutionOf "docs" 0] := rfl

theorem retrieves_run_sample :
    Retrieves Host.counting
      (Run.visits (tenantStep Host.counting) {} sampleTenantCalls)
      (Run.final (tenantStep Host.counting) {} sampleTenantCalls) := by
  apply retrieves_run Host.counting_codecs Host.counting_fresh rfl rfl
  rw [runExecutions_sample, List.flatMap_singleton]
  exact samplePuts_collisionFree

end Urp
