import Urp.CheckpointFrames
import Urp.Library.Rewiring

/-!
# Reads that end

A read follows the bases of a checkpoint.  It ends for every id exactly if
the bases are well-founded, and a put keeps them so exactly if it is no delta
whose chain of bases comes to its own id.
-/

namespace Urp

open Python Program Relation

namespace CheckpointDeltaStore

/-- What is raised when the stack is used up. -/
def stackExhausted : PyException :=
  .runtimeError "maximum recursion depth exceeded"

/-- With room enough on the stack, the read has one outcome, and that is not
an exhausted stack. -/
def Terminates (root : List String) (state : CheckpointFiles)
    (checkpointId : String) : Prop :=
  ∃ outcome, outcome ≠ .error stackExhausted ∧
    ∃ room, ∀ depth, room ≤ depth → read root state depth checkpointId = outcome

/-- The checkpoint is a stored delta over the base. -/
def BaseOf (state : CheckpointFiles) (baseId checkpointId : String) : Prop :=
  ∃ size blockSize changed,
    RestsOn state checkpointId baseId size blockSize changed

/-- The stored ids are identifiers, and the bases are well-founded. -/
structure Straight (state : CheckpointFiles) : Prop where
  identifiers : ∀ checkpointId manifest,
    state.manifests.lookup checkpointId = some manifest →
      isIdentifier checkpointId = true
  bases : WellFounded (BaseOf state)

section Reading

variable {root : List String} {state : CheckpointFiles}
variable {checkpointId baseId : String}

/-! ## A read that is not nested -/

theorem bind_ne_error {α β : Type} {error : PyException}
    {first : Except PyException α} {next : α → Except PyException β}
    (head : first ≠ .error error) (tail : ∀ value, next value ≠ .error error) :
    (first >>= next) ≠ .error error := by
  cases first with
  | error raised =>
      intro same
      exact head (congrArg Except.error (Except.error.inj same))
  | ok value => exact tail value

theorem checkId_ne_exhausted : checkId checkpointId ≠ .error stackExhausted := by
  unfold checkId validateIdentifier stackExhausted
  split
  · simp
  · split <;> simp

theorem patch_ne_exhausted (changed : List ChangedBlock) (blocks : List Bytes) :
    patch root state changed blocks ≠ .error stackExhausted := by
  induction changed generalizing blocks with
  | nil => simp [patch]
  | cons entry rest ih =>
      rw [patch]
      apply bind_ne_error
      · simp only [resolveUnder, stackExhausted]
        split <;> simp
      · intro path
        split
        · simp [missingFile, stackExhausted]
        · split
          · simp [stackExhausted]
          · split
            · exact ih _
            · simp [stackExhausted]

theorem rebuild_ne_exhausted {base : Bytes} {sha256 : String}
    {size blockSize count : Nat} {changed : List ChangedBlock} :
    rebuild root state base sha256 size blockSize changed count ≠
      .error stackExhausted := by
  unfold rebuild
  apply bind_ne_error
  · unfold fixedChunks stackExhausted
    split <;> simp
  · intro chunks
    apply bind_ne_error (patch_ne_exhausted _ _)
    intro blocks
    simp only [stackExhausted]
    split <;> simp

/-- A checkpoint that is no delta is read without another read. -/
theorem terminates_of_no_base
    (alone : ∀ baseId, ¬ BaseOf state baseId checkpointId) :
    Terminates root state checkpointId := by
  have flat : ∃ outcome, outcome ≠ .error stackExhausted ∧
      ∀ depth, read root state (depth + 1) checkpointId = outcome := by
    cases checked : checkId checkpointId with
    | error error =>
        have ordinary := @checkId_ne_exhausted checkpointId
        rw [checked] at ordinary
        refine ⟨.error error, fun same => ordinary ?_, fun depth => ?_⟩
        · exact congrArg Except.error (Except.error.inj same)
        · simp only [read, checked, bind, Except.bind]
    | ok named =>
        obtain ⟨rfl, -⟩ := validateIdentifier_eq_ok checked
        cases found : state.manifests.lookup named with
        | none =>
            refine ⟨.error (missingFile (named ++ ".json")), ?_, fun depth => ?_⟩
            · simp [missingFile, stackExhausted]
            · simp only [read, checked, bind, Except.bind, found]
        | some manifest =>
            cases manifest with
            | base id sha256 size createdAt =>
                refine ⟨read root state 1 named, ?_, fun depth => ?_⟩
                · simp only [read, checked, bind, Except.bind, found]
                  split
                  · simp [missingFile, stackExhausted]
                  · split <;> simp [stackExhausted]
                · simp only [read, checked, bind, Except.bind, found]
            | delta _ baseId =>
                exact absurd ⟨_, _, _, _, found, .intro⟩ (alone baseId)
  obtain ⟨outcome, ordinary, flat⟩ := flat
  refine ⟨outcome, ordinary, 1, fun depth enough => ?_⟩
  obtain ⟨depth, rfl⟩ : ∃ k, depth = k + 1 := ⟨depth - 1, by omega⟩
  exact flat depth

/-- The read of a delta is the read of its base, and something more that does
not read. -/
theorem read_of_baseOf (identifier : isIdentifier checkpointId = true)
    (link : BaseOf state baseId checkpointId) :
    ∃ next : Bytes → Except PyException Bytes,
      (∀ base, next base ≠ .error stackExhausted) ∧
        ∀ depth, read root state (depth + 1) checkpointId =
          read root state depth baseId >>= next := by
  obtain ⟨size, blockSize, changed, manifest, found, onBase⟩ := link
  have checked := @validateIdentifier_of_isIdentifier checkpointId
    "checkpoint id" identifier
  cases onBase with
  | @intro _ sha256 _ targetCount =>
      refine ⟨fun base => rebuild root state base sha256 size blockSize changed
        targetCount, fun base => rebuild_ne_exhausted, fun depth => ?_⟩
      simp only [read, checkId, checked, bind, Except.bind, found]

end Reading

/-! ## Reads and bases -/

section Bases

variable {root : List String} {state : CheckpointFiles}
variable {checkpointId baseId : String}

/-- A read ends exactly if the chain of bases does. -/
theorem terminates_iff_acc
    (identifiers : ∀ checkpointId manifest,
      state.manifests.lookup checkpointId = some manifest →
        isIdentifier checkpointId = true) :
    Terminates root state checkpointId ↔ Acc (BaseOf state) checkpointId := by
  constructor
  · rintro ⟨outcome, ordinary, room, run⟩
    have last := run room (Nat.le_refl room)
    rw [← last] at ordinary
    clear run last
    induction room generalizing checkpointId with
    | zero => exact absurd rfl ordinary
    | succ room ih =>
        constructor
        intro baseId link
        obtain ⟨_, _, _, manifest, found, _⟩ := id link
        obtain ⟨next, -, unfolds⟩ :=
          @read_of_baseOf root _ _ _ (identifiers _ _ found) link
        apply ih
        intro exhausted
        rw [unfolds, exhausted] at ordinary
        exact ordinary rfl
  · intro acc
    induction acc with
    | intro checkpointId _ ih =>
        by_cases link : ∃ baseId, BaseOf state baseId checkpointId
        · obtain ⟨baseId, link⟩ := link
          obtain ⟨outcome, ordinary, room, run⟩ := ih baseId link
          obtain ⟨_, _, _, manifest, found, _⟩ := id link
          obtain ⟨next, quiet, unfolds⟩ :=
            @read_of_baseOf root _ _ _ (identifiers _ _ found) link
          refine ⟨outcome >>= next, bind_ne_error ordinary quiet, room + 1, ?_⟩
          intro depth enough
          obtain ⟨depth, rfl⟩ : ∃ k, depth = k + 1 := ⟨depth - 1, by omega⟩
          rw [unfolds, run depth (Nat.le_of_succ_le_succ enough)]
        · exact terminates_of_no_base fun baseId is => link ⟨baseId, is⟩

/-- The chain of bases comes to an id when the id is before it. -/
theorem reaches_iff :
    Reaches state baseId checkpointId ↔
      ReflTransGen (BaseOf state) baseId checkpointId := by
  constructor
  · intro reaches
    induction reaches with
    | here => exact .refl
    | through rests _ ih => exact ih.tail ⟨_, _, _, rests⟩
  · intro chain
    induction chain with
    | refl => exact .here
    | tail _ link ih =>
        obtain ⟨_, _, _, rests⟩ := link
        exact .through rests ih

end Bases

/-! ## Puts -/

section Puts

variable {root : List String} {depth : Nat} {state later : CheckpointFiles}
variable {put : CheckpointPut}

theorem straight_empty : Straight {} := by
  constructor
  · intro _ _ found
    cases found
  · constructor
    intro checkpointId
    constructor
    rintro baseId ⟨_, _, _, manifest, found, _⟩
    cases found

theorem Straight.terminates (straight : Straight state)
    (checkpointId : String) : Terminates root state checkpointId :=
  (terminates_iff_acc straight.identifiers).mpr
    (straight.bases.apply checkpointId)

theorem Stores.identifiers (stores : Stores root depth state put later)
    (before : Straight state) :
    ∀ checkpointId manifest, later.manifests.lookup checkpointId =
      some manifest → isIdentifier checkpointId = true := by
  intro checkpointId manifest found
  obtain ⟨identifier, -, -⟩ := stores.fits
  by_cases same : checkpointId = put.id
  · rw [same]
    exact identifier
  · rw [stores.changes.lookup_ne same] at found
    exact before.identifiers checkpointId manifest found

/-- A put renews the base of one checkpoint. -/
theorem Stores.sameOff (stores : Stores root depth state put later) :
    Rewiring.SameOff put.id (BaseOf state) (BaseOf later) := by
  intro baseId checkpointId apart
  simp only [BaseOf, stores.changes.restsOn_iff apart]

/-- The put is circular exactly if the new base comes after its id. -/
theorem Stores.circular_iff (stores : Stores root depth state put later) :
    Circular state put ↔
      ∃ baseId, BaseOf later baseId put.id ∧
        ReflTransGen (BaseOf state) put.id baseId := by
  constructor
  · intro circular
    obtain ⟨baseId, _, _, _, rests, further⟩ := stores.rests_of_circular circular
    exact ⟨baseId, ⟨_, _, _, rests⟩, reaches_iff.mp further⟩
  · rintro ⟨baseId, ⟨_, _, _, rests⟩, further⟩
    exact (stores.restsOn rests).2.mpr (reaches_iff.mpr further)

/-- A put that is not circular keeps the bases well-founded. -/
theorem Stores.wellFounded_iff (stores : Stores root depth state put later)
    (before : Straight state) :
    WellFounded (BaseOf later) ↔ ¬ Circular state put := by
  rw [stores.sameOff.wellFounded_iff before.bases, stores.circular_iff]
  constructor
  · rintro straight ⟨baseId, link, further⟩
    exact straight baseId link further
  · intro straight baseId link further
    exact straight ⟨baseId, link, further⟩

/-- After a put, every read ends exactly if the put was not circular. -/
theorem Stores.terminates_iff (stores : Stores root depth state put later)
    (before : Straight state) :
    (∀ checkpointId, Terminates root later checkpointId) ↔
      ¬ Circular state put := by
  have identifiers := stores.identifiers before
  rw [← stores.wellFounded_iff before]
  constructor
  · intro ends
    exact ⟨fun checkpointId =>
      (terminates_iff_acc identifiers).mp (ends checkpointId)⟩
  · intro bases checkpointId
    exact (terminates_iff_acc identifiers).mpr (bases.apply checkpointId)

end Puts

/-! ## Runs of puts -/

section Runs

variable {host : Host} {root : List String} {depth : Nat}
variable {state : CheckpointFiles}

theorem Straight.terminates_iff (before : Straight state)
    (put : CheckpointPut) :
    let v := Run.visit (checkpointStep host root depth) state put
    (∀ checkpointId, Terminates root v.after checkpointId) ↔
      (v.output.isOk = true → ¬ Circular v.before v.input) := by
  intro v
  rcases visit_cases host root depth state put with
    ⟨ok, stores⟩ | ⟨failed, same⟩
  · rw [Stores.terminates_iff stores before]
    exact ⟨fun straight _ => straight, fun straight => straight ok⟩
  · apply iff_of_true
    · intro checkpointId
      rw [same]
      exact before.terminates checkpointId
    · intro ok
      rw [failed] at ok
      cases ok

theorem Straight.step (before : Straight state) (put : CheckpointPut)
    (straight :
      let v := Run.visit (checkpointStep host root depth) state put
      v.output.isOk = true → ¬ Circular v.before v.input) :
    Straight (checkpointStep host root depth state put).2 := by
  rcases visit_cases host root depth state put with
    ⟨ok, stores⟩ | ⟨-, same⟩
  · exact ⟨Stores.identifiers stores before,
      (Stores.wellFounded_iff stores before).mpr (straight ok)⟩
  · have unchanged : (checkpointStep host root depth state put).2 = state := same
    rw [unchanged]
    exact before

/-- In every run of puts, those that fail included. -/
theorem each_terminates_iff (host : Host) (root : List String) (depth : Nat)
    (puts : List CheckpointPut) :
    (∀ v ∈ Run.visits (checkpointStep host root depth) {} puts,
        ∀ checkpointId, Terminates root v.after checkpointId) ↔
      ∀ v ∈ Run.visits (checkpointStep host root depth) {} puts,
        v.output.isOk = true → ¬ Circular v.before v.input := by
  rw [← Run.each_iff_forall_mem, ← Run.each_iff_forall_mem]
  let good := fun (_ : List PutVisit) state => Straight state
  have start : good [] {} := straight_empty
  apply Run.each_iff_of_step start
  · exact fun _ _ put before => before.terminates_iff put
  · exact fun _ _ put before => before.step put

/-- In every run of puts that return, whatever ids they use again, every read
ends in every state that is reached exactly if no put is a delta whose chain
of bases comes to its own id. -/
theorem reads_terminate_iff (host : Host) (root : List String) (depth : Nat)
    {puts : List CheckpointPut}
    (succeed : ∀ v ∈ Run.visits (checkpointStep host root depth) {} puts,
      v.output.isOk = true) :
    (∀ v ∈ Run.visits (checkpointStep host root depth) {} puts,
        ∀ checkpointId, Terminates root v.after checkpointId) ↔
      ∀ v ∈ Run.visits (checkpointStep host root depth) {} puts,
        ¬ Circular v.before v.input := by
  rw [each_terminates_iff]
  constructor
  · exact fun straight v visited => straight v visited (succeed v visited)
  · exact fun straight v visited _ => straight v visited

/-- A checkpoint, and a delta over it. -/
def stackedPuts : List CheckpointPut :=
  [.base "full" [1], .delta 1 Nat.one_pos "full" "longer" [1, 2]]

/-- A delta over a whole checkpoint is put. -/
theorem succeed_over_base {checkpointId : String}
    (identifier : isIdentifier checkpointId = true) :
    ∀ v ∈ Run.visits (checkpointStep .counting [] 1000) {}
        [.base "full" [1], .delta 1 Nat.one_pos "full" checkpointId [1, 2]],
      v.output.isOk = true := by
  intro v member
  simp only [Run.visits, List.mem_cons, List.not_mem_nil, or_false] at member
  rcases member with rfl | rfl
  · rfl
  · exact @putDelta_isOk .counting 1000 _ ⟨[], 1, by decide⟩ "full"
      checkpointId [1] rfl identifier read_first_base [1, 2]

theorem reads_terminate_stacked :
    (∀ v ∈ Run.visits (checkpointStep .counting [] 1000) {} stackedPuts,
        ∀ checkpointId, Terminates [] v.after checkpointId) ↔
      ∀ v ∈ Run.visits (checkpointStep .counting [] 1000) {} stackedPuts,
        ¬ Circular v.before v.input :=
  reads_terminate_iff .counting [] 1000 (@succeed_over_base "longer" (by decide))

/-- A checkpoint, and a delta over it that takes its id. -/
def circularPuts : List CheckpointPut :=
  [.base "full" [1], .delta 1 Nat.one_pos "full" "full" [1, 2]]

/-- A delta that takes the id of its base is read without end. -/
theorem circular_never_ends :
    (∀ v ∈ Run.visits (checkpointStep .counting [] 1000) {} circularPuts,
        v.output.isOk = true) ∧
      ¬ ∀ v ∈ Run.visits (checkpointStep .counting [] 1000) {} circularPuts,
        ∀ checkpointId, Terminates [] v.after checkpointId := by
  have succeed := @succeed_over_base "full" (by decide)
  refine ⟨succeed, fun ends => ?_⟩
  rw [each_terminates_iff] at ends
  have last : Run.visit (checkpointStep .counting [] 1000)
      (Run.visit (checkpointStep .counting [] 1000) {} (.base "full" [1])).after
      (.delta 1 Nat.one_pos "full" "full" [1, 2]) ∈
        Run.visits (checkpointStep .counting [] 1000) {} circularPuts :=
    List.mem_cons_of_mem _ List.mem_cons_self
  exact ends _ last (succeed _ last) .here

end Runs

end CheckpointDeltaStore

end Urp
