import Urp.ExecutionProgress

/-!
# Isolation of shadow executions

A shadow execution stores its chunks under the user's namespace with a prefix,
which an enforce execution may also be given as its namespace.  Executions
only touch the files of their own puts, so the two modes stay apart as long as
no two of these namespaces meet on a common chunk.
-/

namespace Urp

open Python Program

/-! ## The chunks that an execution touches -/

/-- The rows that `put_chunks` returns to the execution, from which its events
and its segments are made. -/
def Execution.rows (host : Host) (execution : Execution) (world : World) :
    List StoredChunk :=
  match forEach (execution.puts host) (Put.run host) world.chunks with
  | (.ok rows, _) => rows
  | (.error _, _) => []

/-- The visit wrote the chunk file. -/
def WroteChunk (v : ExecutionVisit) (path : List String) : Prop :=
  v.before.chunks.files.lookup path = none ∧
    v.after.chunks.files.lookup path ≠ none

/-- The visit reports the chunk file as a dedupe hit. -/
def ReportsHit (host : Host) (v : ExecutionVisit) (path : List String) : Prop :=
  ∃ row ∈ v.input.rows host v.before, row.dedupeHit = true ∧
    resolveUnder host.chunkRoot row.ref = .ok path

/-- A manifest that the visit wrote refers to the chunk file. -/
def RefersTo (host : Host) (v : ExecutionVisit) (path : List String) : Prop :=
  ∃ manifestId manifest, v.before.manifests.lookup manifestId = none ∧
    v.after.manifests.lookup manifestId = some manifest ∧
    ∃ segment ∈ manifest.physical.segments,
      resolveUnder host.chunkRoot segment.stored.ref = .ok path

def ReusesChunk (host : Host) (v : ExecutionVisit) (path : List String) :
    Prop :=
  ReportsHit host v path ∨ RefersTo host v path

def Execution.HasMode (execution : Execution) (mode : Mode) : Prop :=
  executionMode execution.session execution.requestedMode = .ok mode

/-- One is a shadow and the other an enforce execution. -/
def OppositeModes (execution other : Execution) : Prop :=
  execution.HasMode .shadow ∧ other.HasMode .enforce ∨
    execution.HasMode .enforce ∧ other.HasMode .shadow

/-- No chunk that one mode's executions wrote is reused by the other's. -/
def ShadowIsolated (host : Host) (start : World)
    (executions : List Execution) : Prop :=
  ∀ v ∈ Run.visits (executionStep host) start executions,
    ∀ w ∈ Run.visits (executionStep host) start executions,
      OppositeModes v.input w.input →
        ∀ path, WroteChunk v path → ¬ ReusesChunk host w path

/-- No chunk of an enforce execution is also one of a shadow execution whose
prefixed namespace is the same. -/
def NamespacesApart (host : Host) (executions : List Execution) : Prop :=
  ∀ execution ∈ executions, ∀ other ∈ executions,
    execution.HasMode .enforce → other.HasMode .shadow →
      execution.workUnit.nameSpace = "shadow-" ++ other.workUnit.nameSpace →
        ∀ put ∈ execution.puts host, ∀ chunk ∈ other.puts host,
          put.data ≠ chunk.data

section Step

variable {host : Host} {execution : Execution}

/-- The puts of an execution are made for its tenant, under the namespace of
its mode. -/
theorem Execution.mem_puts {put : Put} (member : put ∈ execution.puts host) :
    ∃ mode, execution.HasMode mode ∧
      put.tenant = execution.workUnit.tenant ∧
      put.nameSpace = storageNamespace execution.workUnit mode := by
  unfold puts at member
  split at member
  · cases member
  · rename_i prepared ready
    split at member
    · cases member
    · split at member
      · cases member
      · obtain ⟨chunk, -, rfl⟩ := List.mem_map.mp member
        exact ⟨prepared.mode, (prepare_eq_ok ready).1, rfl, rfl⟩

theorem exists_of_mem_zipWith {chunks : List Chunk} {rows : List StoredChunk}
    {segment : Segment} (member : segment ∈ List.zipWith segmentOf chunks rows) :
    segment.stored ∈ rows := by
  induction chunks generalizing rows with
  | nil => cases member
  | cons chunk rest ih =>
      cases rows with
      | nil => cases member
      | cons row more =>
          rcases List.mem_cons.mp member with rfl | later
          · exact List.mem_cons_self
          · exact List.mem_cons_of_mem _ (ih later)

/-- A row of the puts names the file of one of them. -/
theorem path_of_mem_rows {items : List Put} {rows : List StoredChunk}
    (refs : List.Forall₂ (fun put row => row.ref = put.ref) items rows)
    {row : StoredChunk} (member : row ∈ rows) {path : List String}
    (resolved : resolveUnder host.chunkRoot row.ref = .ok path) :
    ∃ put ∈ items, path = put.path := by
  induction refs with
  | nil => cases member
  | cons same rest ih =>
      rename_i put first _ _
      rcases List.mem_cons.mp member with rfl | later
      · rw [same, put.resolveUnder_ref host] at resolved
        cases resolved
        exact ⟨put, List.mem_cons_self, rfl⟩
      · obtain ⟨other, otherMember, at_path⟩ := ih later
        exact ⟨other, List.mem_cons_of_mem _ otherMember, at_path⟩

/-- What an execution touches: its index entries, files and references are
those of its own puts. -/
structure Touches (host : Host) (puts own : List Put) (world later : World) :
    Prop where
  indexed : Indexed puts later.chunks
  files : ChunkFiles.ChangedAt own world.chunks later.chunks
  segments : ∀ manifestId manifest,
    world.manifests.lookup manifestId = none →
      later.manifests.lookup manifestId = some manifest →
        ∀ segment ∈ manifest.physical.segments, ∀ path,
          resolveUnder host.chunkRoot segment.stored.ref = .ok path →
            ∃ put ∈ own, path = put.path

variable {puts : List Put} {prepared : Prepared} {world later : World}

theorem touches_of_same {own : List Put} (indexed : Indexed puts world.chunks)
    (chunks : later.chunks = world.chunks)
    (manifests : later.manifests = world.manifests) :
    Touches host puts own world later := by
  constructor
  · rw [chunks]
    exact indexed
  · rw [chunks]
    exact .refl _
  · intro manifestId manifest missing found
    rw [manifests, missing] at found
    cases found

theorem Outcome.touches {wrote : Option Manifest}
    (collisionFree : CollisionFree puts)
    (ready : execution.prepare host = .ok prepared)
    (subset : ∀ put ∈ execution.puts host, put ∈ puts)
    (indexed : Indexed puts world.chunks)
    (outcome : Outcome host execution prepared world later wrote) :
    Touches host puts (execution.puts host) world later := by
  have ran := indexed.ensures_puts host collisionFree subset
  cases outcome with
  | unchanged quiet =>
      exact touches_of_same indexed quiet.chunks quiet.manifests
  | observed mode chunks physical lineage written =>
      constructor
      · rw [chunks]
        exact indexed
      · rw [chunks]
        exact .refl _
      · intro manifestId new missing found segment member
        rw [written.eq_of_new missing found, Manifest.physical_reloaded,
          physical] at member
        cases member
  | failed mode cut after manifests supply =>
      rw [← Execution.puts_eq ready mode cut] at after
      have done := ensures_state_iff.mp (ran.mono
        (fun _ _ done => And.intro done.1 done.2.2) (fun _ _ done => done))
      rw [← after] at done
      refine ⟨done.1, done.2, ?_⟩
      intro manifestId manifest missing found
      rw [manifests, missing] at found
      cases found
  | stored mode cut run physical lineage written =>
      rw [← Execution.puts_eq ready mode cut] at run
      obtain ⟨kept, refs, changed⟩ := ran.of_ok run
      refine ⟨kept, changed, ?_⟩
      intro manifestId new missing found segment member path resolved
      rw [written.eq_of_new missing found, Manifest.physical_reloaded,
        physical] at member
      exact path_of_mem_rows refs (exists_of_mem_zipWith member) resolved

/-- A reported hit is on a file of the execution's own puts. -/
theorem path_of_reportsHit {v : ExecutionVisit}
    (collisionFree : CollisionFree puts)
    (subset : ∀ put ∈ v.input.puts host, put ∈ puts)
    (indexed : Indexed puts v.before.chunks) {path : List String}
    (reports : ReportsHit host v path) :
    ∃ put ∈ v.input.puts host, path = put.path := by
  obtain ⟨row, member, -, resolved⟩ := reports
  have ran := indexed.ensures_puts host collisionFree subset
  unfold Execution.rows at member
  split at member
  · rename_i rows later run
    exact path_of_mem_rows (ran.of_ok run).2.1 member resolved
  · cases member

end Step

section Runs

variable {host : Host} {executions : List Execution}
variable (collisionFree : CollisionFree
  (executions.flatMap (Execution.puts host)))

include collisionFree

theorem touches_executionStep {world : World} {execution : Execution}
    (member : execution ∈ executions)
    (indexed : Indexed (executions.flatMap (Execution.puts host))
      world.chunks) :
    Touches host (executions.flatMap (Execution.puts host))
      (execution.puts host) world (executionStep host world execution).2 := by
  cases ready : execution.prepare host with
  | error error =>
      rw [executionStep, execute_of_unprepared host ready]
      exact touches_of_same indexed rfl rfl
  | ok prepared =>
      have touches : ∀ {wrote : Option Manifest} {later : World},
          Outcome host execution prepared world later wrote →
            Touches host (executions.flatMap (Execution.puts host))
              (execution.puts host) world later := fun outcome =>
        outcome.touches collisionFree ready
          (fun put putMember => List.mem_flatMap.mpr
            ⟨execution, member, putMember⟩) indexed
      apply ensures_state_iff.mp
      apply (ensures_executeExactObject host ready world).mono
      · rintro result later ⟨manifest, outcome, -⟩
        exact touches outcome
      · rintro error later ⟨wrote, outcome⟩
        exact touches outcome

/-- A chunk that one visit wrote and another reuses is a chunk of both. -/
theorem common_put {start : World} (noChunks : start.chunks = {})
    {v w : ExecutionVisit}
    (member : v ∈ Run.visits (executionStep host) start executions)
    (otherMember : w ∈ Run.visits (executionStep host) start executions)
    {path : List String} (wrote : WroteChunk v path)
    (reuses : ReusesChunk host w path) :
    ∃ put ∈ v.input.puts host, ∃ other ∈ w.input.puts host,
      put.path = other.path := by
  let puts := executions.flatMap (Execution.puts host)
  have empty : Indexed puts start.chunks := by
    intro key row found
    rw [noChunks] at found
    cases found
  let holds := fun world : World => Indexed puts world.chunks
  have keeps : ∀ world, ∀ execution ∈ executions, holds world →
      holds (executionStep host world execution).2 :=
    fun world execution executionMember before =>
      (touches_executionStep collisionFree executionMember before).indexed
  have started : holds start := empty
  have indexed : ∀ visit ∈ Run.visits (executionStep host) start executions,
      holds visit.before := fun visit visited =>
    (Run.visits_induction started keeps visit visited).1
  have touches := fun visit visited =>
    touches_executionStep collisionFree (Run.visit_of_mem visited).1
      (indexed visit visited)
  have after : ∀ visit ∈ Run.visits (executionStep host) start executions,
      visit.after = (executionStep host visit.before visit.input).2 :=
    fun visit visited => congrArg Run.Visit.after (Run.visit_of_mem visited).2
  have changed : v.after.chunks.files.lookup path ≠
      v.before.chunks.files.lookup path := by
    rw [wrote.1]
    exact wrote.2
  rw [after v member] at changed
  obtain ⟨put, putMember, putPath⟩ := (touches v member).files path changed
  refine ⟨put, putMember, ?_⟩
  rcases reuses with hit | ⟨manifestId, manifest, missing, found, segment,
    segmentMember, resolved⟩
  · obtain ⟨other, putOther, otherPath⟩ := path_of_reportsHit collisionFree
      (fun put putMember => List.mem_flatMap.mpr
        ⟨w.input, (Run.visit_of_mem otherMember).1, putMember⟩)
      (indexed w otherMember) hit
    exact ⟨other, putOther, putPath.symm.trans otherPath⟩
  · rw [after w otherMember] at found
    obtain ⟨other, putOther, otherPath⟩ := (touches w otherMember).segments
      manifestId manifest missing found segment segmentMember path resolved
    exact ⟨other, putOther, putPath.symm.trans otherPath⟩

end Runs

/-- In every run of one tenant's executions from an empty chunk store, the two
modes share no chunk if their namespaces stay apart. -/
theorem shadow_isolated {host : Host} {executions : List Execution}
    (collisionFree : CollisionFree
      (executions.flatMap (Execution.puts host)))
    {start : World} (noChunks : start.chunks = {}) {tenant : String}
    (oneTenant : ∀ execution ∈ executions,
      execution.workUnit.tenant = tenant)
    (apart : NamespacesApart host executions) :
    ShadowIsolated host start executions := by
  intro v member w otherMember opposite path wrote reuses
  obtain ⟨put, putMember, other, putOther, same⟩ :=
    common_put collisionFree noChunks member otherMember wrote reuses
  have input := (Run.visit_of_mem member).1
  have otherInput := (Run.visit_of_mem otherMember).1
  obtain ⟨domains, -, data⟩ := collisionFree.of_path
    (List.mem_flatMap.mpr ⟨v.input, input, putMember⟩)
    (List.mem_flatMap.mpr ⟨w.input, otherInput, putOther⟩) same
  obtain ⟨mode, hasMode, tenants, nameSpace⟩ := Execution.mem_puts putMember
  obtain ⟨otherMode, otherHasMode, otherTenants, otherNameSpace⟩ :=
    Execution.mem_puts putOther
  have sameTenant : put.tenant = other.tenant := by
    rw [tenants, otherTenants, oneTenant _ input, oneTenant _ otherInput]
  have sameNameSpace : put.nameSpace = other.nameSpace := by
    simp only [Put.domainText, LocalChunkStore.domainText, sameTenant,
      List.append_cancel_left_eq, List.cons.injEq, true_and] at domains
    exact String.toList_inj.mp domains
  rw [nameSpace, otherNameSpace] at sameNameSpace
  have modes : ∀ {execution : Execution} {mode given : Mode},
      execution.HasMode mode → execution.HasMode given → mode = given := by
    intro execution mode given has hasGiven
    exact Except.ok.inj (has.symm.trans hasGiven)
  rcases opposite with ⟨shadow, enforce⟩ | ⟨enforce, shadow⟩
  · rw [modes hasMode shadow, modes otherHasMode enforce] at sameNameSpace
    exact apart w.input otherInput v.input input enforce shadow
      sameNameSpace.symm other putOther put putMember data.symm
  · rw [modes hasMode enforce, modes otherHasMode shadow] at sameNameSpace
    exact apart v.input input w.input otherInput enforce shadow sameNameSpace
      put putMember other putOther data

/-- Both modes store the same bytes under one namespace. -/
def bothModes : List Execution :=
  [sampleExecution "acme" "default" "enforce",
    sampleExecution "acme" "default" "shadow"]

theorem shadow_isolated_bothModes :
    ShadowIsolated Host.counting {} bothModes := by
  have collisionFree : CollisionFree
      (bothModes.flatMap (Execution.puts Host.counting)) :=
    collisionFree_sampleExecutions.subset fun put member => by
      obtain ⟨execution, listed, own⟩ := List.mem_flatMap.mp member
      exact List.mem_flatMap.mpr
        ⟨execution, List.mem_append_left [_] listed, own⟩
  have tenants : ∀ execution ∈ bothModes,
      execution.workUnit.tenant = "acme" := by
    intro execution member
    simp only [bothModes, List.mem_cons, List.not_mem_nil, or_false] at member
    rcases member with rfl | rfl <;> rfl
  have names : ∀ execution ∈ bothModes,
      execution.workUnit.nameSpace = "default" := by
    intro execution member
    simp only [bothModes, List.mem_cons, List.not_mem_nil, or_false] at member
    rcases member with rfl | rfl <;> rfl
  refine shadow_isolated collisionFree rfl tenants ?_
  intro execution member other otherMember _ _ clash
  rw [names execution member, names other otherMember] at clash
  exact absurd clash (by decide)

/-! ## A namespace with the prefix -/

def shadowExecution : Execution := sampleExecution "acme" "x" "shadow"

/-- The namespace is the one that the shadow execution stores under. -/
def prefixedExecution : Execution :=
  sampleExecution "acme" "shadow-x" "enforce"

def runsOn (mode : Mode) (prepared : Prepared) : Bool :=
  prepared.mode = mode && prepared.payload = [104, 105]

/-- An execution reports a hit on its only chunk when that is stored. -/
theorem Execution.Admissible.reportsHit {execution : Execution}
    {prepared : Prepared} {chunk : Chunk}
    (admissible : execution.Admissible Host.counting prepared [chunk])
    (mode : prepared.mode ≠ .observe) {first : Put}
    (same : (onlyPut execution prepared chunk).keyText = first.keyText)
    {world : World}
    (chunks : world.chunks = ChunkFiles.store Host.counting {} first) :
    ReportsHit Host.counting
      (Run.visit (executionStep Host.counting) world execution) first.path := by
  let put := onlyPut execution prepared chunk
  have rows : execution.rows Host.counting world =
      [put.reused (first.newRow Host.counting)] := by
    have run : forEach [put] (Put.run Host.counting) world.chunks =
        (.ok [put.reused (first.newRow Host.counting)], world.chunks) := by
      rw [chunks]
      exact forEach_singleton (Put.run_of_stored same)
    unfold Execution.rows
    rw [Execution.puts_eq admissible.ready mode admissible.cut]
    change (match forEach [put] (Put.run Host.counting) world.chunks with
      | (.ok rows, _) => rows
      | (.error _, _) => []) = _
    rw [run]
  refine ⟨put.reused (first.newRow Host.counting), ?_, rfl, ?_⟩
  · change _ ∈ execution.rows Host.counting world
    rw [rows]
    exact List.mem_cons_self
  · exact first.resolveUnder_ref Host.counting

/-- An enforce execution whose only chunk has the key text of a shadow
execution's reports that chunk as a hit. -/
theorem not_isolated_of_keyText {shadowed enforced : Execution}
    {shadow enforce : Prepared} {chunk again : Chunk}
    (shadowAdmissible : shadowed.Admissible Host.counting shadow [chunk])
    (enforceAdmissible : enforced.Admissible Host.counting enforce [again])
    (shadowMode : shadow.mode = .shadow) (enforceMode : enforce.mode = .enforce)
    (same : (onlyPut enforced enforce again).keyText =
      (onlyPut shadowed shadow chunk).keyText) :
    ¬ ShadowIsolated Host.counting {} [shadowed, enforced] := by
  have shadowStores : shadow.mode ≠ .observe := by
    rw [shadowMode]
    decide
  have enforceStores : enforce.mode ≠ .observe := by
    rw [enforceMode]
    decide
  obtain ⟨_, middle, _, run, -, -, -, one⟩ :=
    shadowAdmissible.storesFirst shadowStores shadowAdmissible.collisionFree
      fun _ own => own
  intro isolated
  let visit := Run.visit (executionStep Host.counting)
  have early : visit {} shadowed ∈ Run.visits (executionStep Host.counting) {}
      [shadowed, enforced] := List.mem_cons_self
  have late : visit middle enforced ∈ Run.visits (executionStep Host.counting)
      {} [shadowed, enforced] := by
    simp only [visit, Run.visits, executionStep, run, List.mem_cons, true_or,
      or_true]
  have opposite : OppositeModes shadowed enforced := by
    have shadowHas := (Execution.prepare_eq_ok shadowAdmissible.ready).1
    have enforceHas := (Execution.prepare_eq_ok enforceAdmissible.ready).1
    rw [shadowMode] at shadowHas
    rw [enforceMode] at enforceHas
    exact .inl ⟨shadowHas, enforceHas⟩
  have after : (visit {} shadowed).after = middle := congrArg Prod.snd run
  apply isolated _ early _ late opposite
  · refine ⟨rfl, ?_⟩
    rw [after, one.chunks]
    exact Option.ne_none_iff_exists'.mpr ⟨_, Dict.lookup_insert_self _ _ _⟩
  · exact .inl (enforceAdmissible.reportsHit enforceStores same one.chunks)

theorem data_of_payload {prepared : Prepared} {chunk : Chunk} {payload : Bytes}
    (cut : planChunks prepared.plan prepared.payload = .ok [chunk])
    (given : prepared.payload = payload) : chunk.data = payload := by
  have joined := joined_planChunks cut
  rw [given] at joined
  simpa [Chunk.joined] using joined

theorem keyText_of_data {execution other : Execution} {prepared last : Prepared}
    {chunk again : Chunk}
    (tenants : other.workUnit.tenant = execution.workUnit.tenant)
    (names : storageNamespace other.workUnit last.mode =
      storageNamespace execution.workUnit prepared.mode)
    (data : again.data = chunk.data) :
    (onlyPut other last again).keyText =
      (onlyPut execution prepared chunk).keyText := by
  have digests : again.sha256 = chunk.sha256 := by
    rw [again.digested, chunk.digested, data]
  change LocalChunkStore.keyText other.workUnit.tenant
      (storageNamespace other.workUnit last.mode) again.sha256 =
    LocalChunkStore.keyText execution.workUnit.tenant
      (storageNamespace execution.workUnit prepared.mode) chunk.sha256
  rw [tenants, names, digests]

theorem prefixedExecution_reuses :
    ¬ ShadowIsolated Host.counting {} [shadowExecution, prefixedExecution] := by
  have shadowPasses : shadowExecution.passesWith Host.counting
      (runsOn .shadow) = true := by decide +kernel
  have enforcePasses : prefixedExecution.passesWith Host.counting
      (runsOn .enforce) = true := by decide +kernel
  obtain ⟨shadow, chunk, shadowAdmissible, shadowRuns⟩ :=
    Execution.admissible_of_passes shadowPasses
  obtain ⟨enforce, again, enforceAdmissible, enforceRuns⟩ :=
    Execution.admissible_of_passes enforcePasses
  simp only [runsOn, Bool.and_eq_true, decide_eq_true_eq]
    at shadowRuns enforceRuns
  apply not_isolated_of_keyText shadowAdmissible enforceAdmissible
    shadowRuns.1 enforceRuns.1
  apply keyText_of_data
  · rfl
  · rw [enforceRuns.1, shadowRuns.1]
    decide
  · rw [data_of_payload enforceAdmissible.cut enforceRuns.2,
      data_of_payload shadowAdmissible.cut shadowRuns.2]

end Urp
