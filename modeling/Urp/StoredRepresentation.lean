import Urp.ExecutionProgress
import Urp.PlanConformance
import Urp.PolicyStrictness
import Urp.ShadowIsolation

/-!
# Segments and the decision of their own work unit

A chunk that is already stored is returned with the transforms it was stored
with, whatever the decision of the new execution says, and as a dedupe hit.
Executions that find no such chunk write manifests that obey their decisions.
-/

namespace Urp

open Python Program

/-- The segments are represented as the manifest's own decision allows. -/
structure Manifest.Obeys (manifest : Manifest) : Prop where
  compressed : ∀ segment ∈ manifest.physical.segments,
    "zstd" ∈ segment.stored.transformStack →
      manifest.policy.Executable "zstd"
  deduped : ∀ segment ∈ manifest.physical.segments,
    segment.stored.dedupeHit = true →
      "dedupe_same_tenant" ∉ manifest.policy.deniedActions

def World.Obeys (world : World) : Prop :=
  ∀ manifestId manifest,
    world.manifests.lookup manifestId = some manifest → manifest.Obeys

/-! ## The puts of one execution -/

/-- The put finds its chunk stored, with this row. -/
def ChunkFiles.Hits (state : ChunkFiles) (put : Put) (row : StoredChunk) :
    Prop :=
  state.files.lookup put.path ≠ none ∧ state.index.lookup put.key = some row

/-- Puts with one file have one index entry. -/
def KeyedByPath (puts : List Put) : Prop :=
  ∀ put ∈ puts, ∀ other ∈ puts, put.path = other.path → put.key = other.key

theorem keyedByPath_chunkPuts (execution : Execution) (prepared : Prepared)
    (chunks : List Chunk) : KeyedByPath (chunkPuts execution prepared chunks) := by
  intro put member other otherMember same
  obtain ⟨chunk, -, rfl⟩ := List.mem_map.mp member
  obtain ⟨second, -, rfl⟩ := List.mem_map.mp otherMember
  simp only [Put.path, List.cons.injEq, and_true] at same
  simp only [Put.key, same.2]

theorem KeyedByPath.tail {put : Put} {rest : List Put}
    (keyed : KeyedByPath (put :: rest)) : KeyedByPath rest :=
  fun first member other otherMember =>
    keyed first (List.mem_cons_of_mem put member) other
      (List.mem_cons_of_mem put otherMember)

section Puts

variable {host : Host} {state : ChunkFiles} {put other : Put}

/-- What another put finds after one has stored its chunk. -/
theorem hits_store (keyed : put.path = other.path → put.key = other.key)
    {row : StoredChunk} (hits : (state.store host put).Hits other row) :
    (put.key = other.key ∧ row = put.newRow host) ∨
      (put.key ≠ other.key ∧ state.Hits other row) := by
  obtain ⟨file, entry⟩ := hits
  simp only [ChunkFiles.store, Dict.lookup_insert] at file entry
  by_cases same : put.key = other.key
  · rw [if_pos same] at entry
    cases entry
    exact .inl ⟨same, rfl⟩
  · have apart : put.path ≠ other.path := fun paths => same (keyed paths)
    rw [if_neg same] at entry
    rw [if_neg apart] at file
    exact .inr ⟨same, file, entry⟩

/-- A put returns a new row or reuses the row that it finds. -/
theorem ensures_put_rows (host : Host) (state : ChunkFiles) (put : Put) :
    Ensures (put.run host) state
      (fun stored later =>
        (∃ row, state.Hits put row ∧ stored = put.reused row ∧ later = state) ∨
          (∀ row, ¬ state.Hits put row) ∧ stored = put.newRow host ∧
            later = state.store host put)
      (fun _ _ => True) := by
  by_cases missed : state.files.lookup put.path = none ∨
      state.index.lookup put.key = none
  · apply (ensures_of_run (run_of_missed host missed)).mpr
    refine .inr ⟨fun row hits => ?_, rfl, rfl⟩
    rcases missed with file | entry
    · exact hits.1 file
    · rw [hits.2] at entry
      cases entry
  · rw [not_or] at missed
    apply (ensures_put host state put).mono
    · rintro stored later (⟨row, -, found, rfl, rfl, -⟩ | ⟨other, -⟩)
      · exact .inl ⟨row, ⟨missed.1, found⟩, rfl, rfl⟩
      · exact absurd other (not_or.mpr missed)
    · exact fun _ _ _ => trivial

theorem transformStack_newRow (plain : put.compress = false) :
    (put.newRow host).transformStack = [] := by
  simp [Put.newRow, LocalChunkStore.encode, plain]

/-- What every put in turn finds and writes is a property of all rows, if one
put leaves the later ones what they find. -/
theorem rows_forEach {kept : StoredChunk → Prop}
    {ready : ChunkFiles → List Put → Prop}
    (reuses : ∀ {state put rest row}, ready state (put :: rest) →
      state.Hits put row → kept (put.reused row))
    (writes : ∀ {state put rest}, ready state (put :: rest) →
      kept (put.newRow host))
    (skips : ∀ {state put rest}, ready state (put :: rest) → ready state rest)
    (stores : ∀ {state put rest}, ready state (put :: rest) →
      ready (state.store host put) rest)
    {items : List Put} (start : ready state items) :
    Ensures (forEach items (Put.run host)) state
      (fun rows _ => ∀ row ∈ rows, kept row) (fun _ _ => True) := by
  induction items generalizing state with
  | nil => exact fun _ member => (nomatch member)
  | cons put rest ih =>
      have collected : ∀ {stored : StoredChunk} {later : ChunkFiles},
          kept stored → ready later rest →
            Ensures (forEach rest (Put.run host) >>= fun rows =>
                Program.ret (stored :: rows)) later
              (fun rows _ => ∀ row ∈ rows, kept row) (fun _ _ => True) := by
        intro stored later first laterReady
        rw [ensures_bind]
        apply (ih laterReady).mono
        · intro rows final each row member
          rcases List.mem_cons.mp member with rfl | later
          · exact first
          · exact each row later
        · exact fun _ _ _ => trivial
      rw [forEach, ensures_bind]
      apply (ensures_put_rows host state put).mono
      · rintro stored later (⟨row, hits, rfl, rfl⟩ | ⟨-, rfl, rfl⟩)
        · exact collected (reuses start hits) (skips start)
        · exact collected (writes start) (stores start)
      · exact fun _ _ _ => trivial

/-- The puts do not compress and find no compressed chunk. -/
structure Uncompressed (state : ChunkFiles) (items : List Put) : Prop where
  keyed : KeyedByPath items
  plain : ∀ put ∈ items, put.compress = false
  clean : ∀ put ∈ items, ∀ row, state.Hits put row →
    "zstd" ∉ row.transformStack

theorem rows_uncompressed {items : List Put}
    (start : Uncompressed state items) :
    Ensures (forEach items (Put.run host)) state
      (fun rows _ => ∀ row ∈ rows, "zstd" ∉ row.transformStack)
      (fun _ _ => True) := by
  apply @rows_forEach host state _ Uncompressed _ _ _ _ _ start
  · intro state put rest row ready hits
    exact ready.clean put List.mem_cons_self row hits
  · intro state put rest ready
    rw [transformStack_newRow (ready.plain put List.mem_cons_self)]
    exact List.not_mem_nil
  · intro state put rest ready
    exact ⟨ready.keyed.tail, List.forall_mem_of_forall_mem_cons ready.plain,
      List.forall_mem_of_forall_mem_cons ready.clean⟩
  · intro state put rest ready
    refine ⟨ready.keyed.tail, List.forall_mem_of_forall_mem_cons ready.plain,
      ?_⟩
    intro other member row hits
    have inItems := List.mem_cons_of_mem put member
    rcases hits_store (ready.keyed put List.mem_cons_self other inItems) hits
      with ⟨-, rfl⟩ | ⟨-, before⟩
    · rw [transformStack_newRow (ready.plain put List.mem_cons_self)]
      exact List.not_mem_nil
    · exact ready.clean other inItems row before

/-- The puts find none of their chunks, and no chunk comes twice. -/
structure Unstored (state : ChunkFiles) (items : List Put) : Prop where
  keyed : KeyedByPath items
  distinct : (items.map Put.key).Nodup
  missing : ∀ put ∈ items, ∀ row, ¬ state.Hits put row

theorem rows_unstored {items : List Put} (start : Unstored state items) :
    Ensures (forEach items (Put.run host)) state
      (fun rows _ => ∀ row ∈ rows, row.dedupeHit = false)
      (fun _ _ => True) := by
  apply @rows_forEach host state _ Unstored _ _ _ _ _ start
  · intro state put rest row ready hits
    exact absurd hits (ready.missing put List.mem_cons_self row)
  · intro state put rest ready
    rfl
  · intro state put rest ready
    exact ⟨ready.keyed.tail, (List.nodup_cons.mp ready.distinct).2,
      List.forall_mem_of_forall_mem_cons ready.missing⟩
  · intro state put rest ready
    obtain ⟨fresh, distinct⟩ := List.nodup_cons.mp ready.distinct
    refine ⟨ready.keyed.tail, distinct, ?_⟩
    intro other member row hits
    have inItems := List.mem_cons_of_mem put member
    rcases hits_store (ready.keyed put List.mem_cons_self other inItems) hits
      with ⟨same, -⟩ | ⟨-, before⟩
    · exact fresh (same ▸ List.mem_map.mpr ⟨other, member, rfl⟩)
    · exact ready.missing other inItems row before

end Puts

/-! ## Plans that compress -/

/-- In shadow mode an action is also allowed by its name with a suffix. -/
def ShadowsZstd (policy : PolicyDecision) : Prop :=
  "zstd_shadow" ∈ policy.allowedActions ∧ "zstd" ∉ policy.deniedActions

/-- The planner proposes to compress the payload. -/
def ProposesZstd (host : Host) (workUnit : WorkUnit) : Prop :=
  (reduceAction (classify host workUnit)).type = "zstd"

/-- No plan of an AI request compresses. -/
theorem zstd_not_requested {host : Host} {workUnit : WorkUnit} {mode : Mode}
    {bundle : Option PolicyBundle} {policy : PolicyDecision} {plan : Plan}
    (ai : workUnit.kind ∈ [.promptRequest, .embeddingRequest])
    (planned : planWorkUnit host workUnit mode bundle (some policy) = .ok plan) :
    "zstd" ∉ plan.actionNames := by
  have filtered : ∀ {classification : Classification}
      {actions : List PlanAction} {expectation : List (String × Value)}
      {fallback : String}, "zstd" ∉ actions.map PlanAction.type →
        planRequest host workUnit mode classification policy actions
          expectation fallback = .ok plan → "zstd" ∉ plan.actionNames := by
    intro classification actions expectation fallback unlisted run zstd
    obtain ⟨kept, filtering, rest⟩ := except_bind_eq_ok_iff.mp run
    obtain ⟨_, -, made⟩ := except_bind_eq_ok_iff.mp rest
    cases made
    obtain ⟨action, own, name⟩ := List.mem_map.mp zstd
    rw [(filterActions_eq_ok_iff.mp filtering).2] at own
    exact unlisted (List.mem_map.mpr ⟨action, (List.mem_filter.mp own).1, name⟩)
  unfold planWorkUnit at planned
  simp only [List.mem_cons, List.not_mem_nil, or_false] at ai
  obtain ⟨chosen, same, planned⟩ := except_bind_eq_ok_iff.mp planned
  cases same
  rcases ai with kind | kind
  · rw [kind] at planned
    exact filtered (by decide) planned
  · rw [kind] at planned
    exact filtered (by decide) planned

theorem zstd_of_planned {host : Host} {workUnit : WorkUnit} {mode : Mode}
    {bundle : Option PolicyBundle} {policy : PolicyDecision} {plan : Plan}
    (planned : planWorkUnit host workUnit mode bundle (some policy) = .ok plan)
    (zstd : "zstd" ∈ plan.actionNames) :
    ProposesZstd host workUnit ∧
      (policy.Executable "zstd" ∨ mode = .shadow ∧ ShadowsZstd policy) := by
  by_cases ai : workUnit.kind ∈ [.promptRequest, .embeddingRequest]
  · exact absurd zstd (zstd_not_requested ai planned)
  · obtain ⟨-, rfl⟩ := (planWorkUnit_object ai rfl).mp planned
    obtain ⟨action, member, name⟩ := List.mem_map.mp zstd
    have others : ∀ action ∈ exactStoreAction :: hashAction :: closingActions,
        action.type ≠ "zstd" := by decide
    have stores : (storeAction (classify host workUnit)).type ≠ "zstd" := by
      unfold storeAction
      split <;> decide
    rcases mem_plannedActions.mp member with rfl | closing | ⟨rfl, -⟩ |
      ⟨rfl | rfl, kept⟩
    · exact absurd name (others _ (by simp))
    · exact absurd name (others action (by simp [closing]))
    · exact absurd name (others _ (by simp))
    · exact absurd name stores
    · refine ⟨name, ?_⟩
      simp only [keeps, name, Bool.and_eq_true, Bool.or_eq_true,
        decide_eq_true_eq] at kept
      obtain ⟨undenied, (framework | allowed) | ⟨shadow, suffixed⟩⟩ := kept
      · exact absurd framework (by decide)
      · exact .inl ⟨allowed, undenied⟩
      · exact .inr ⟨shadow, suffixed, undenied⟩

/-! ## Executions that meet nothing stored against their decision -/

/-- Where the decision does not execute an action, neither a stored chunk nor
the shadow name of the action brings it in. -/
structure Execution.Unaffected (host : Host) (execution : Execution)
    (world : World) (policy : PolicyDecision) : Prop where
  compressed : ¬ policy.Executable "zstd" →
    ∀ put ∈ execution.puts host, ∀ row, world.chunks.Hits put row →
      "zstd" ∉ row.transformStack
  shadowed : ¬ policy.Executable "zstd" →
    ¬ (execution.HasMode .shadow ∧ ShadowsZstd policy ∧
      ProposesZstd host execution.workUnit)
  deduped : "dedupe_same_tenant" ∈ policy.deniedActions →
    ((execution.puts host).map Put.key).Nodup ∧
      ∀ put ∈ execution.puts host, ∀ row, ¬ world.chunks.Hits put row

def Execution.MeetsNothing (host : Host) (execution : Execution)
    (world : World) : Prop :=
  ∀ policy, evaluatePolicy execution.workUnit execution.bundle = .ok policy →
    execution.Unaffected host world policy

section Steps

variable {host : Host} {execution : Execution} {prepared : Prepared}
variable {world later : World}

/-- The rows of an execution that meets nothing obey its decision. -/
theorem rows_obey (ready : execution.prepare host = .ok prepared)
    (mode : prepared.mode ≠ .observe) {chunks : List Chunk}
    (cut : planChunks prepared.plan prepared.payload = .ok chunks)
    (unaffected : execution.Unaffected host world prepared.policy)
    {rows : List StoredChunk} {stored : ChunkFiles}
    (run : forEach (chunkPuts execution prepared chunks) (Put.run host)
      world.chunks = (.ok rows, stored)) :
    ∀ row ∈ rows,
      ("zstd" ∈ row.transformStack → prepared.policy.Executable "zstd") ∧
      (row.dedupeHit = true →
        "dedupe_same_tenant" ∉ prepared.policy.deniedActions) := by
  obtain ⟨hasMode, -, -, planned⟩ := Execution.prepare_eq_ok ready
  have puts := Execution.puts_eq ready mode cut
  have keyed := keyedByPath_chunkPuts execution prepared chunks
  intro row member
  constructor
  · intro zstd
    by_contra unexecutable
    have unplanned : "zstd" ∉ prepared.plan.actionNames := by
      intro listed
      obtain ⟨proposes, executable | ⟨shadow, shadows⟩⟩ :=
        zstd_of_planned planned listed
      · exact unexecutable executable
      · refine unaffected.shadowed unexecutable ⟨?_, shadows, proposes⟩
        rw [Execution.HasMode, hasMode, shadow]
    have plain : ∀ put ∈ chunkPuts execution prepared chunks,
        put.compress = false := by
      intro put own
      obtain ⟨chunk, -, rfl⟩ := List.mem_map.mp own
      exact decide_eq_false unplanned
    have start : Uncompressed world.chunks
        (chunkPuts execution prepared chunks) :=
      ⟨keyed, plain, puts ▸ unaffected.compressed unexecutable⟩
    exact (rows_uncompressed start).of_ok run row member zstd
  · intro hit denied
    obtain ⟨distinct, missing⟩ := unaffected.deduped denied
    rw [puts] at distinct missing
    have unhit := (rows_unstored ⟨keyed, distinct, missing⟩).of_ok run row member
    rw [hit] at unhit
    cases unhit

theorem obeys_of_written {manifest : Manifest} (obeys : world.Obeys)
    (written : Written host execution prepared world later manifest)
    (new : manifest.reloaded.Obeys) : later.Obeys := by
  intro manifestId other found
  rw [written.manifests, Dict.lookup_insert] at found
  split at found
  · cases found
    exact new
  · exact obeys manifestId other found

theorem Written.policy {manifest : Manifest}
    (written : Written host execution prepared world later manifest) :
    manifest.policy = prepared.policy := by
  obtain ⟨_, _, _, _, _, _, made⟩ := written.made
  rw [made]
  rfl

theorem Outcome.obeys {wrote : Option Manifest}
    (ready : execution.prepare host = .ok prepared) (obeys : world.Obeys)
    (unaffected : execution.Unaffected host world prepared.policy)
    (outcome : Outcome host execution prepared world later wrote) :
    later.Obeys := by
  cases outcome with
  | unchanged quiet =>
      unfold World.Obeys
      rw [quiet.manifests]
      exact obeys
  | observed mode chunks physical lineage written =>
      apply obeys_of_written obeys written
      constructor
      · intro segment member
        rw [Manifest.physical_reloaded, physical] at member
        cases member
      · intro segment member
        rw [Manifest.physical_reloaded, physical] at member
        cases member
  | failed mode cut after manifests supply =>
      unfold World.Obeys
      rw [manifests]
      exact obeys
  | stored mode cut run physical lineage written =>
      apply obeys_of_written obeys written
      have each := rows_obey ready mode cut unaffected run
      rw [← written.policy] at each
      constructor
      · intro segment member zstd
        rw [Manifest.physical_reloaded, physical] at member
        exact (each segment.stored (exists_of_mem_zipWith member)).1 zstd
      · intro segment member hit
        rw [Manifest.physical_reloaded, physical] at member
        exact (each segment.stored (exists_of_mem_zipWith member)).2 hit

theorem obeys_executionStep (obeys : world.Obeys)
    (meets : execution.MeetsNothing host world) :
    (executionStep host world execution).2.Obeys := by
  cases ready : execution.prepare host with
  | error error =>
      rw [executionStep, execute_of_unprepared host ready]
      exact obeys
  | ok prepared =>
      obtain ⟨wrote, outcome⟩ := exists_outcome host ready world
      exact outcome.obeys ready obeys
        (meets prepared.policy (Execution.prepare_eq_ok ready).2.2.1)

end Steps

/-- In every run of executions that meet nothing stored against their own
decision, every manifest obeys its decision in every state reached. -/
theorem storedRepresentation_obeys {host : Host} {executions : List Execution}
    {start : World} (obeys : start.Obeys)
    (meets : ∀ v ∈ Run.visits (executionStep host) start executions,
      v.input.MeetsNothing host v.before) :
    ∀ v ∈ Run.visits (executionStep host) start executions, v.after.Obeys := by
  intro v member
  exact (Run.visits_guarded obeys
    (fun _ _ meets before => obeys_executionStep before meets) meets v member).2

/-! ## A chunk that is shared against the decision -/

/-- A bundle that denies that files share chunks. -/
def undedupedBundle : PolicyBundle where
  apiVersion := some "urp.dev/v1"
  kind := some "ReductionPolicy"
  metadata := some { name := some "undeduped" }
  spec := some {
    defaults := some { contract := some "exact_bytes" }
    rules := some [{
      name := some "share-nothing"
      matching := some [.kind "file"]
      contract := some "exact_bytes"
      deny := some { transforms := some ["dedupe_same_tenant"] } }] }

def undedupedExecution : Execution :=
  { sampleExecution "acme" "default" "enforce" with
    bundle := some undedupedBundle }

def deniesDedupe (prepared : Prepared) : Bool :=
  prepared.mode = .enforce &&
    "dedupe_same_tenant" ∈ prepared.policy.deniedActions

theorem undedupedExecution_passes :
    undedupedExecution.passesWith Host.counting deniesDedupe = true := by
  decide +kernel

/-- The first execution finds no chunk, and obeys its decision. -/
theorem storedRepresentation_obeys_undeduped :
    (Run.visits (executionStep Host.counting) {} [undedupedExecution]).length =
        1 ∧
      ∀ v ∈ Run.visits (executionStep Host.counting) {} [undedupedExecution],
        v.after.Obeys := by
  have empty : World.Obeys {} := by
    intro manifestId manifest found
    cases found
  have missing : ∀ put row, ¬ ChunkFiles.Hits {} put row :=
    fun put row hits => hits.1 rfl
  have distinct :
      ((undedupedExecution.puts Host.counting).map Put.key).Nodup := by
    decide +kernel
  refine ⟨rfl, storedRepresentation_obeys empty ?_⟩
  intro v member
  rw [List.mem_singleton.mp member]
  intro policy _
  constructor
  · exact fun _ put _ row hits => absurd hits (missing put row)
  · rintro - ⟨shadow, -⟩
    obtain ⟨prepared, _, admissible, check⟩ :=
      Execution.admissible_of_passes undedupedExecution_passes
    simp only [deniesDedupe, Bool.and_eq_true, decide_eq_true_eq] at check
    have enforced := (Execution.prepare_eq_ok admissible.ready).1
    rw [check.1] at enforced
    have same := Except.ok.inj (Eq.trans (Eq.symm shadow) enforced)
    cases same
  · exact fun _ => ⟨distinct, fun put _ row => missing put row⟩

/-- The second of two equal executions reports a dedupe hit that its decision
denies. -/
theorem undedupedExecution_disobeys :
    ¬ ∀ v ∈ Run.visits (executionStep Host.counting) {}
      [undedupedExecution, undedupedExecution], v.after.Obeys := by
  obtain ⟨prepared, chunk, admissible, check⟩ :=
    Execution.admissible_of_passes undedupedExecution_passes
  simp only [deniesDedupe, Bool.and_eq_true, decide_eq_true_eq] at check
  obtain ⟨enforced, denied⟩ := check
  have mode : prepared.mode ≠ .observe := by
    rw [enforced]
    decide
  let put := onlyPut undedupedExecution prepared chunk
  have own : put ∈ undedupedExecution.puts Host.counting := by
    rw [Execution.puts_eq admissible.ready mode admissible.cut]
    exact List.mem_cons_self
  obtain ⟨_, middle, _, run, -, healthy, drawn, one⟩ :=
    admissible.storesFirst mode admissible.collisionFree
      fun _ member => member
  obtain ⟨_, later, manifest, rerun, two⟩ := admissible.storesAgain mode
    admissible.collisionFree (fun _ member => member) own rfl healthy
    drawn one.chunks
  intro obeys
  have last := obeys (Run.visit (executionStep Host.counting) middle
    undedupedExecution) (by
      simp only [Run.visits, executionStep, run, List.mem_cons, true_or, or_true])
  have after : (Run.visit (executionStep Host.counting) middle
      undedupedExecution).after = later := congrArg Prod.snd rerun
  rw [after] at last
  have listed : segmentOf chunk (put.reused (put.newRow Host.counting)) ∈
      manifest.reloaded.physical.segments := by
    rw [Manifest.physical_reloaded, two.segments]
    exact List.mem_cons_self
  apply (last _ _ two.written.found).deduped _ listed rfl
  have policy : manifest.reloaded.policy = prepared.policy :=
    two.written.policy
  rw [policy]
  exact denied

end Urp
