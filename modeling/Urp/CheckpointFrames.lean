import Urp.CheckpointChains

/-!
# Overwritten checkpoints

A delta is kept relative to its base, which is named and not copied.  A put
under an id that is used again therefore changes what is read for the deltas
over that id, unless the new bytes agree with the old ones wherever those
deltas look.
-/

namespace Urp

open Python Program

/-- A delta over this base, with its size and blocks. -/
inductive CheckpointManifest.Over (baseId : String) (size blockSize : Nat)
    (changed : List ChangedBlock) : CheckpointManifest → Prop where
  | intro {checkpointId sha256 : String} {baseCount targetCount : Nat}
      {createdAt : String} {avoided : Nat} :
      Over baseId size blockSize changed
        (.delta checkpointId baseId sha256 size blockSize changed baseCount
          targetCount createdAt avoided)

/-- A visit of a run of puts. -/
abbrev PutVisit :=
  Run.Visit CheckpointFiles CheckpointPut (Except PyException CheckpointManifest)

namespace CheckpointDeltaStore

/-- The checkpoint is a stored delta over this base. -/
def RestsOn (state : CheckpointFiles) (checkpointId baseId : String)
    (size blockSize : Nat) (changed : List ChangedBlock) : Prop :=
  ∃ manifest, state.manifests.lookup checkpointId = some manifest ∧
    manifest.Over baseId size blockSize changed

/-- The chain of bases from a checkpoint comes to the target. -/
inductive Reaches (state : CheckpointFiles) (target : String) :
    String → Prop where
  | here : Reaches state target target
  | through {checkpointId baseId : String} {size blockSize : Nat}
      {changed : List ChangedBlock}
      (rests : RestsOn state checkpointId baseId size blockSize changed)
      (further : Reaches state target baseId) :
      Reaches state target checkpointId

/-- The bytes that were last stored under an id. -/
def lastData (past : List PutVisit) (checkpointId : String) : Option Bytes :=
  (past.reverse.find? fun v =>
    v.input.id = checkpointId && v.output.isOk).map fun v => v.input.data

/-- The put is a delta whose chain of bases comes to its own id. -/
def Circular (state : CheckpointFiles) : CheckpointPut → Prop
  | .base _ _ => False
  | .delta _ _ baseId checkpointId _ => Reaches state checkpointId baseId

/-- Every other delta over the put's id finds the bytes that were there, and
the put does not end up resting on itself. -/
def Harmless (past : List PutVisit) (v : PutVisit) : Prop :=
  ∀ other size blockSize changed, other ≠ v.input.id →
    RestsOn v.before other v.input.id size blockSize changed →
      ¬ Circular v.before v.input ∧
      ∃ old, lastData past v.input.id = some old ∧
        AgreesOutside size blockSize changed v.input.data old

/-- The put leaves what is read for every other id, given room on the stack. -/
def Framed (root : List String) (v : PutVisit) : Prop :=
  ∀ other, other ≠ v.input.id → ∃ room, ∀ depth, room ≤ depth →
    read root v.after depth other = read root v.before depth other

/-! ## What was last stored -/

theorem lastData_append (past : List PutVisit) (v : PutVisit)
    (checkpointId : String) :
    lastData (past ++ [v]) checkpointId =
      if v.input.id = checkpointId ∧ v.output.isOk = true then
        some v.input.data
      else lastData past checkpointId := by
  by_cases stored : v.input.id = checkpointId ∧ v.output.isOk = true
  · rw [if_pos stored]
    simp [lastData, stored]
  · rw [if_neg stored]
    have skipped : (v.input.id = checkpointId && v.output.isOk) = false := by
      rw [Bool.eq_false_iff]
      intro both
      exact stored (by simpa using both)
    simp [lastData, skipped]

/-! ## Stored checkpoints -/

/-- The manifest and the files of the id hold these bytes. -/
inductive Fits (state : CheckpointFiles) (checkpointId : String)
    (data : Bytes) : CheckpointManifest → Prop where
  | base {named createdAt : String} {size : Nat}
      (held : state.files.lookup [baseName checkpointId] = some data) :
      Fits state checkpointId data
        (.base named (Python.sha256 data) size createdAt)
  | delta {named baseId createdAt : String} {blockSize baseCount avoided : Nat}
      {target : List Chunk} (chosen : Nat → Bool)
      (cut : CutInto blockSize data target)
      (written : ∀ entry ∈ selected chosen target 0,
        state.files.lookup [blockName checkpointId entry.2] =
          some entry.1.data) :
      Fits state checkpointId data
        (.delta named baseId (Python.sha256 data) data.length blockSize
          ((selected chosen target 0).map (changedBlock checkpointId))
          baseCount target.length createdAt avoided)

/-- What is read with enough room on the stack. -/
def Reads (root : List String) (state : CheckpointFiles)
    (checkpointId : String) (data : Bytes) : Prop :=
  ∃ room, ∀ depth, room ≤ depth → read root state depth checkpointId = .ok data

section Reading

variable {root : List String} {state later : CheckpointFiles}
variable {checkpointId baseId : String} {data : Bytes}
variable {manifest : CheckpointManifest}
variable {size blockSize : Nat} {changed : List ChangedBlock}

theorem Fits.of_files (fits : Fits state checkpointId data manifest)
    (same : ∀ path, FileOf checkpointId path →
      later.files.lookup path = state.files.lookup path) :
    Fits later checkpointId data manifest := by
  cases fits with
  | base held => exact .base ((same _ .base).trans held)
  | delta chosen cut written =>
      exact .delta chosen cut fun entry member =>
        (same _ (.block entry.2)).trans (written entry member)

/-- Whatever the room, nothing else is read. -/
theorem Reads.unique {other : Bytes} {depth : Nat}
    (reads : Reads root state checkpointId data)
    (run : read root state depth checkpointId = .ok other) : other = data := by
  obtain ⟨room, reads⟩ := reads
  have deep := (Extends.refl state).read (Nat.le_max_left depth room) run
  rw [reads _ (Nat.le_max_right depth room)] at deep
  exact (Except.ok.inj deep).symm

/-- Without a manifest a read fails alike everywhere. -/
theorem read_of_absent (before : state.manifests.lookup checkpointId = none)
    (after : later.manifests.lookup checkpointId = none) (depth : Nat) :
    read root later depth checkpointId = read root state depth checkpointId := by
  cases depth with
  | zero => rfl
  | succ depth =>
      simp only [read]
      cases checked : checkId checkpointId with
      | error error => rfl
      | ok named =>
          obtain ⟨rfl, -⟩ := validateIdentifier_eq_ok checked
          simp only [bind, Except.bind, before, after]

theorem read_of_base (identifier : isIdentifier checkpointId = true)
    {named sha256 createdAt : String}
    (found : state.manifests.lookup checkpointId =
      some (.base named sha256 size createdAt))
    (fits : Fits state checkpointId data (.base named sha256 size createdAt))
    (depth : Nat) : read root state (depth + 1) checkpointId = .ok data := by
  have checked := @validateIdentifier_of_isIdentifier checkpointId
    "checkpoint id" identifier
  cases fits with
  | base held =>
      simp only [read, checkId, checked, bind, Except.bind, found, held, ne_eq,
        not_true_eq_false, if_false]

/-- A delta reads its data exactly if the base reads bytes that agree with
it. -/
theorem read_over_iff (identifier : isIdentifier checkpointId = true)
    (found : state.manifests.lookup checkpointId = some manifest)
    (fits : Fits state checkpointId data manifest)
    (onBase : manifest.Over baseId size blockSize changed) {depth : Nat} :
    read root state (depth + 1) checkpointId = .ok data ↔
      ∃ base, read root state depth baseId = .ok base ∧
        AgreesOutside size blockSize changed base data := by
  have checked := @validateIdentifier_of_isIdentifier checkpointId
    "checkpoint id" identifier
  cases onBase with
  | intro =>
      cases fits with
      | delta chosen cut written =>
          simp only [read, checkId, checked, bind, Except.bind, found]
          cases read root state depth baseId with
          | error error => simp
          | ok base =>
              have rebuilt := @rebuild_eq_ok_iff root state checkpointId
                identifier chosen base data _ _ cut written
              simpa using rebuilt

/-- Nothing is read for a delta when nothing is read for its base. -/
theorem read_base_of_read (found : state.manifests.lookup checkpointId =
      some manifest) (onBase : manifest.Over baseId size blockSize changed)
    {depth : Nat} (run : read root state depth checkpointId = .ok data) :
    ∃ less base, depth = less + 1 ∧ read root state less baseId = .ok base := by
  cases depth with
  | zero => cases run
  | succ depth =>
      simp only [read] at run
      obtain ⟨named, checked, body⟩ := except_bind_eq_ok_iff.mp run
      obtain ⟨rfl, -⟩ := validateIdentifier_eq_ok checked
      cases onBase with
      | intro =>
          rw [found] at body
          obtain ⟨base, baseRun, -⟩ := except_bind_eq_ok_iff.mp body
          exact ⟨depth, base, rfl, baseRun⟩

/-- A delta over itself is never read. -/
theorem read_over_itself (identifier : isIdentifier checkpointId = true)
    (rests : RestsOn state checkpointId checkpointId size blockSize changed)
    (depth : Nat) :
    read root state depth checkpointId =
      .error (.runtimeError "maximum recursion depth exceeded") := by
  obtain ⟨manifest, found, onBase⟩ := rests
  have checked := @validateIdentifier_of_isIdentifier checkpointId
    "checkpoint id" identifier
  induction depth with
  | zero => rfl
  | succ depth ih =>
      cases onBase with
      | intro =>
          simp only [read, checkId, checked, bind, Except.bind, found, ih]

end Reading

/-! ## Sound stores -/

/-- What holds of the store while every put was harmless. -/
structure Sound (root : List String) (past : List PutVisit)
    (state : CheckpointFiles) : Prop where
  fits : ∀ checkpointId manifest,
    state.manifests.lookup checkpointId = some manifest →
      isIdentifier checkpointId = true ∧
        ∃ data, lastData past checkpointId = some data ∧
          Fits state checkpointId data manifest
  restores : ∀ checkpointId data, lastData past checkpointId = some data →
    (∀ size blockSize changed,
      ¬ RestsOn state checkpointId checkpointId size blockSize changed) →
    Reads root state checkpointId data
  straight : ∀ other baseId size blockSize changed, other ≠ baseId →
    RestsOn state other baseId size blockSize changed →
      ∀ size blockSize changed,
        ¬ RestsOn state baseId baseId size blockSize changed

section Agreement

variable {size blockSize : Nat} {changed : List ChangedBlock}
variable {one two three : Bytes}

theorem AgreesOutside.symm (agrees : AgreesOutside size blockSize changed one two) :
    AgreesOutside size blockSize changed two one :=
  fun i below outside => (agrees i below outside).symm

theorem AgreesOutside.trans (first : AgreesOutside size blockSize changed one two)
    (second : AgreesOutside size blockSize changed two three) :
    AgreesOutside size blockSize changed one three :=
  fun i below outside => (first i below outside).trans (second i below outside)

end Agreement

theorem RestsOn.unique {state : CheckpointFiles}
    {other one two : String} {size blockSize size' blockSize' : Nat}
    {changed changed' : List ChangedBlock}
    (first : RestsOn state other one size blockSize changed)
    (second : RestsOn state other two size' blockSize' changed') : one = two := by
  obtain ⟨manifest, found, onBase⟩ := first
  obtain ⟨held, again, also⟩ := second
  rw [found] at again
  cases again
  cases onBase
  cases also
  rfl

section Soundness

variable {root : List String} {past : List PutVisit} {state : CheckpointFiles}
variable {other baseId : String}
variable {size blockSize : Nat} {changed : List ChangedBlock}

/-- A delta over another checkpoint reads back, over bytes of the base that
agree with its own. -/
theorem Sound.agrees (sound : Sound root past state) (apart : other ≠ baseId)
    (rests : RestsOn state other baseId size blockSize changed) :
    ∃ old data, lastData past baseId = some old ∧
      lastData past other = some data ∧ Reads root state other data ∧
        AgreesOutside size blockSize changed old data := by
  obtain ⟨manifest, found, onBase⟩ := rests
  obtain ⟨identifier, data, last, fits⟩ := sound.fits other manifest found
  have reads := sound.restores other data last fun _ _ _ itself =>
    apart (itself.unique ⟨manifest, found, onBase⟩)
  obtain ⟨room, atRoom⟩ := id reads
  have deep := atRoom (room + 1) (Nat.le_succ room)
  obtain ⟨base, baseRun, agree⟩ :=
    (read_over_iff identifier found fits onBase).mp deep
  obtain ⟨held, baseFound⟩ := manifest_of_read baseRun
  obtain ⟨-, old, baseLast, -⟩ := sound.fits baseId held baseFound
  have baseReads := sound.restores baseId old baseLast
    (sound.straight other baseId _ _ _ apart ⟨manifest, found, onBase⟩)
  rw [baseReads.unique baseRun] at agree
  exact ⟨old, data, baseLast, last, reads, agree⟩

variable {checkpointId : String} {later : CheckpointFiles}

theorem Changes.lookup_ne (changes : Changes state checkpointId later)
    (apart : other ≠ checkpointId) :
    later.manifests.lookup other = state.manifests.lookup other := by
  obtain ⟨manifest, manifests⟩ := changes.manifests
  rw [manifests]
  exact Dict.lookup_insert_ne _ _ (Ne.symm apart)

theorem Changes.restsOn_iff (changes : Changes state checkpointId later)
    (apart : other ≠ checkpointId) :
    RestsOn later other baseId size blockSize changed ↔
      RestsOn state other baseId size blockSize changed := by
  rw [RestsOn, RestsOn, changes.lookup_ne apart]

theorem Changes.fits_ne (changes : Changes state checkpointId later)
    (apart : other ≠ checkpointId) {data : Bytes}
    {manifest : CheckpointManifest} (fits : Fits state other data manifest) :
    Fits later other data manifest :=
  fits.of_files fun path own => changes.files path fun foreign =>
    apart (own.unique foreign)

theorem reads_over {data base : Bytes} {manifest : CheckpointManifest}
    (identifier : isIdentifier other = true)
    (found : state.manifests.lookup other = some manifest)
    (fits : Fits state other data manifest)
    (onBase : manifest.Over baseId size blockSize changed)
    (baseReads : Reads root state baseId base)
    (agree : AgreesOutside size blockSize changed base data) :
    Reads root state other data := by
  obtain ⟨room, baseReads⟩ := baseReads
  refine ⟨room + 1, fun depth enough => ?_⟩
  obtain ⟨depth, rfl⟩ : ∃ k, depth = k + 1 := ⟨depth - 1, by omega⟩
  exact (read_over_iff identifier found fits onBase).mpr
    ⟨base, baseReads depth (Nat.le_of_succ_le_succ enough), agree⟩

/-- What was read stays readable along a chain of bases, if it does where the
chain comes to the id that is written. -/
theorem Sound.reads_after (sound : Sound root past state)
    (changes : Changes state checkpointId later) {follows : String → Prop}
    (closed : ∀ x b size blockSize changed, follows x → x ≠ checkpointId →
      RestsOn state x b size blockSize changed → b ≠ checkpointId → follows b)
    (turn : ∀ x size blockSize changed data, follows x → x ≠ checkpointId →
      RestsOn state x checkpointId size blockSize changed →
        lastData past x = some data →
          ∃ base, Reads root later checkpointId base ∧
            AgreesOutside size blockSize changed base data)
    {depth : Nat} {data : Bytes} (followed : follows other)
    (apart : other ≠ checkpointId)
    (run : read root state depth other = .ok data) :
    Reads root later other data := by
  induction depth generalizing other data with
  | zero => cases run
  | succ depth ih =>
      obtain ⟨manifest, found⟩ := manifest_of_read run
      obtain ⟨identifier, own, last, fits⟩ := sound.fits other manifest found
      have fitsLater := changes.fits_ne apart fits
      have foundLater := (changes.lookup_ne apart).trans found
      cases manifest with
      | base named sha256 size createdAt =>
          have same := @read_of_base root _ _ _ _ identifier _ _ _ found fits depth
          rw [run] at same
          cases same
          refine ⟨1, fun more enough => ?_⟩
          obtain ⟨more, rfl⟩ : ∃ k, more = k + 1 := ⟨more - 1, by omega⟩
          exact read_of_base identifier foundLater fitsLater more
      | delta named baseId sha256 size blockSize changed _ _ _ _ =>
          have rests : RestsOn state other baseId size blockSize changed :=
            ⟨_, found, .intro⟩
          have reads : Reads root state other own := by
            apply sound.restores other own last
            intro _ _ _ itself
            rw [read_over_itself identifier itself] at run
            cases run
          obtain rfl : data = own := reads.unique run
          obtain ⟨base, baseRun, agree⟩ :=
            (read_over_iff identifier found fits .intro).mp run
          by_cases turned : baseId = checkpointId
          · rw [turned] at rests
            obtain ⟨now, nowReads, nowAgree⟩ :=
              turn other _ _ _ data followed apart rests last
            rw [← turned] at nowReads
            exact reads_over identifier foundLater fitsLater .intro nowReads
              nowAgree
          · have baseReads := ih
              (closed other baseId _ _ _ followed apart rests turned) turned
              baseRun
            exact reads_over identifier foundLater fitsLater .intro baseReads
              agree

variable {depth : Nat} {put : CheckpointPut}

theorem lookup_of_insert {manifest : CheckpointManifest}
    (manifests : later.manifests =
      state.manifests.insert checkpointId manifest) :
    later.manifests.lookup checkpointId = some manifest := by
  rw [manifests]
  exact Dict.lookup_insert_self _ _ _

/-- What a put leaves under its own id. -/
theorem Stores.fits (stores : Stores root depth state put later) :
    isIdentifier put.id = true ∧ ∃ manifest,
      later.manifests = state.manifests.insert put.id manifest ∧
        Fits later put.id put.data manifest := by
  cases stores with
  | base puts =>
      obtain ⟨createdAt, manifests⟩ := puts.manifest
      refine ⟨puts.identifier, _, manifests, .base ?_⟩
      rw [puts.files]
      exact Dict.lookup_insert_self _ _ _
  | delta puts =>
      obtain ⟨createdAt, avoided, manifests⟩ := puts.manifest
      rw [changedChunks_eq_selected] at manifests
      exact ⟨puts.identifier, _, manifests,
        .delta _ (cutInto_of_fixedChunks puts.targetCut) puts.written⟩

/-- A checkpoint that rests on another one after a put under its id was put as
a delta, over a base that was read. -/
theorem Stores.restsOn (stores : Stores root depth state put later)
    (rests : RestsOn later put.id baseId size blockSize changed) :
    (∃ base, read root state depth baseId = .ok base) ∧
      (Circular state put ↔ Reaches state put.id baseId) := by
  obtain ⟨manifest, found, onBase⟩ := rests
  cases stores with
  | base puts =>
      obtain ⟨createdAt, manifests⟩ := puts.manifest
      rw [CheckpointPut.id, lookup_of_insert manifests] at found
      cases found
      cases onBase
  | delta puts =>
      obtain ⟨createdAt, avoided, manifests⟩ := puts.manifest
      rw [CheckpointPut.id, lookup_of_insert manifests] at found
      cases found
      cases onBase
      exact ⟨⟨_, puts.baseRead⟩, Iff.rfl⟩

/-- A put that does not rest on itself reads back. -/
theorem Sound.reads_put (sound : Sound root past state)
    (stores : Stores root depth state put later)
    (straight : ¬ Circular state put) : Reads root later put.id put.data := by
  have changes := stores.changes
  cases stores with
  | base puts =>
      refine ⟨1, fun more enough => ?_⟩
      obtain ⟨more, rfl⟩ : ∃ k, more = k + 1 := ⟨more - 1, by omega⟩
      exact puts.reads root more
  | @delta _ _ baseId checkpointId data base _ _ _ puts =>
      have apart : baseId ≠ checkpointId := by
        rintro rfl
        exact straight .here
      have baseReads : Reads root later baseId base := by
        let avoids : String → Prop := fun x => ¬ Reaches state checkpointId x
        refine @Sound.reads_after root past state baseId checkpointId later
          sound changes avoids ?_ ?_ depth base straight apart puts.baseRead
        · intro x b _ _ _ avoided _ rests _ reaches
          exact avoided (.through rests reaches)
        · intro x _ _ _ _ avoided _ rests _
          exact absurd (.through rests .here) avoided
      obtain ⟨room, baseReads⟩ := baseReads
      refine ⟨room + 1, fun more enough => ?_⟩
      obtain ⟨more, rfl⟩ : ∃ k, more = k + 1 := ⟨more - 1, by omega⟩
      exact puts.reads (baseReads more (Nat.le_of_succ_le_succ enough))

/-- The chain of a circular put comes to its id from another checkpoint. -/
theorem Reaches.last (reaches : Reaches state checkpointId other)
    (apart : other ≠ checkpointId) :
    ∃ x size blockSize changed, x ≠ checkpointId ∧
      RestsOn state x checkpointId size blockSize changed := by
  induction reaches with
  | here => exact absurd rfl apart
  | @through x baseId size blockSize changed rests further ih =>
      by_cases direct : baseId = checkpointId
      · rw [direct] at rests
        exact ⟨x, size, blockSize, changed, apart, rests⟩
      · exact ih direct

theorem Stores.rests_of_circular (stores : Stores root depth state put later)
    (circular : Circular state put) :
    ∃ baseId size blockSize changed,
      RestsOn later put.id baseId size blockSize changed ∧
        Reaches state put.id baseId := by
  cases stores with
  | base puts => exact circular.elim
  | delta puts =>
      obtain ⟨createdAt, avoided, manifests⟩ := puts.manifest
      exact ⟨_, _, _, _, ⟨_, lookup_of_insert manifests, .intro⟩, circular⟩

/-- Once a put rests on itself, nothing is read whose chain comes to it. -/
theorem not_read_of_circular (stores : Stores root depth state put later)
    (circular : Circular state put) {more : Nat} {data : Bytes}
    (reaches : Reaches state put.id other) :
    read root later more other ≠ .ok data := by
  induction more using Nat.strongRecOn generalizing other data with
  | ind more ih =>
      intro run
      -- Whichever checkpoint this is, its base is read with less room.
      have base : ∃ baseId size blockSize changed,
          RestsOn later other baseId size blockSize changed ∧
            Reaches state put.id baseId := by
        by_cases same : other = put.id
        · rw [same]
          exact stores.rests_of_circular circular
        · cases reaches with
          | here => exact absurd rfl same
          | through rests further =>
              exact ⟨_, _, _, _, (stores.changes.restsOn_iff same).mpr rests,
                further⟩
      obtain ⟨baseId, _, _, _, ⟨manifest, found, onBase⟩, further⟩ := base
      obtain ⟨less, bytes, rfl, baseRun⟩ := read_base_of_read found onBase run
      exact ih less (Nat.lt_succ_self less) further baseRun

end Soundness

/-! ## The frame of a put -/

section Frames

variable {root : List String} {depth : Nat} {past : List PutVisit} {v : PutVisit}

/-- A harmless put keeps what is read for the other ids. -/
theorem Sound.keeps (sound : Sound root past v.before)
    (stores : Stores root depth v.before v.input v.after)
    (harmless : Harmless past v) {other : String} (apart : other ≠ v.input.id)
    {room : Nat} {data : Bytes}
    (run : read root v.before room other = .ok data) :
    Reads root v.after other data := by
  refine @Sound.reads_after root past v.before other v.input.id v.after sound
    stores.changes (fun _ => True) (fun _ _ _ _ _ _ _ _ _ => trivial) ?_ room
    data trivial apart run
  intro x size blockSize changed data _ apart rests last
  obtain ⟨straight, old, oldLast, agree⟩ := harmless x _ _ _ apart rests
  obtain ⟨before, own, beforeLast, ownLast, -, held⟩ := sound.agrees apart rests
  rw [oldLast] at beforeLast
  cases beforeLast
  rw [last] at ownLast
  cases ownLast
  exact ⟨v.input.data, sound.reads_put stores straight, agree.trans held⟩

theorem Sound.framed (sound : Sound root past v.before)
    (stores : Stores root depth v.before v.input v.after)
    (harmless : Harmless past v) : Framed root v := by
  intro other apart
  have sameManifest := stores.changes.lookup_ne apart
  cases found : v.before.manifests.lookup other with
  | none =>
      exact ⟨0, fun more _ => read_of_absent found (sameManifest.trans found) more⟩
  | some manifest =>
      obtain ⟨identifier, data, last, fits⟩ := sound.fits other manifest found
      by_cases itself : ∃ size blockSize changed,
        RestsOn v.before other other size blockSize changed
      · obtain ⟨size, blockSize, changed, itself⟩ := itself
        refine ⟨0, fun more _ => ?_⟩
        rw [read_over_itself identifier itself more, read_over_itself identifier
          ((stores.changes.restsOn_iff apart).mpr itself) more]
      · obtain ⟨room, before⟩ := sound.restores other data last
          fun size blockSize changed rests =>
            itself ⟨size, blockSize, changed, rests⟩
        obtain ⟨more, after⟩ := sound.keeps stores harmless apart
          (before room (Nat.le_refl room))
        refine ⟨max room more, fun depth enough => ?_⟩
        rw [before depth (Nat.le_trans (Nat.le_max_left _ _) enough),
          after depth (Nat.le_trans (Nat.le_max_right _ _) enough)]

/-- A put that keeps them is harmless. -/
theorem Sound.harmless (sound : Sound root past v.before)
    (stores : Stores root depth v.before v.input v.after)
    (framed : Framed root v) : Harmless past v := by
  intro other size blockSize changed apart rests
  obtain ⟨old, data, oldLast, last, reads, held⟩ := sound.agrees apart rests
  have later : Reads root v.after other data := by
    obtain ⟨room, same⟩ := framed other apart
    obtain ⟨more, before⟩ := reads
    refine ⟨max room more, fun depth enough => ?_⟩
    rw [same depth (Nat.le_trans (Nat.le_max_left _ _) enough)]
    exact before depth (Nat.le_trans (Nat.le_max_right _ _) enough)
  obtain ⟨room, run⟩ := later
  have straight : ¬ Circular v.before v.input := by
    intro circular
    exact not_read_of_circular stores circular (.through rests .here)
      (run room (Nat.le_refl room))
  refine ⟨straight, old, oldLast, ?_⟩
  obtain ⟨manifest, found, onBase⟩ := rests
  obtain ⟨identifier, own, ownLast, fits⟩ := sound.fits other manifest found
  rw [last] at ownLast
  cases ownLast
  obtain ⟨base, baseRun, agree⟩ := (read_over_iff identifier
    ((stores.changes.lookup_ne apart).trans found)
    (stores.changes.fits_ne apart fits) onBase).mp
      (run (room + 1) (Nat.le_succ room))
  rw [(sound.reads_put stores straight).unique baseRun] at agree
  exact agree.trans held.symm

/-- A harmless put leaves the store sound. -/
theorem Sound.step (sound : Sound root past v.before)
    (stores : Stores root depth v.before v.input v.after)
    (ok : v.output.isOk = true) (harmless : Harmless past v) :
    Sound root (past ++ [v]) v.after := by
  have changes := stores.changes
  obtain ⟨identifier, manifest, manifests, fits⟩ := stores.fits
  have own : ∀ {checkpointId : String}, checkpointId = v.input.id →
      lastData (past ++ [v]) checkpointId = some v.input.data := by
    rintro _ rfl
    rw [lastData_append, if_pos ⟨rfl, ok⟩]
  have foreign : ∀ {checkpointId : String}, checkpointId ≠ v.input.id →
      lastData (past ++ [v]) checkpointId = lastData past checkpointId := by
    intro checkpointId apart
    rw [lastData_append, if_neg fun both => apart both.1.symm]
  constructor
  · intro checkpointId held found
    by_cases same : checkpointId = v.input.id
    · subst same
      rw [lookup_of_insert manifests] at found
      cases found
      exact ⟨identifier, _, own rfl, fits⟩
    · rw [changes.lookup_ne same] at found
      obtain ⟨valid, data, last, before⟩ := sound.fits checkpointId held found
      exact ⟨valid, data, (foreign same).trans last, changes.fits_ne same before⟩
  · intro checkpointId data last alone
    by_cases same : checkpointId = v.input.id
    · subst same
      rw [own rfl] at last
      cases last
      apply sound.reads_put stores
      intro circular
      obtain ⟨baseId, _, _, _, rests, further⟩ :=
        stores.rests_of_circular circular
      by_cases direct : baseId = v.input.id
      · rw [direct] at rests
        exact alone _ _ _ rests
      · obtain ⟨x, _, _, _, apart, onBase⟩ := further.last direct
        exact (harmless x _ _ _ apart onBase).1 circular
    · rw [foreign same] at last
      obtain ⟨room, before⟩ := sound.restores checkpointId data last
        fun _ _ _ rests => alone _ _ _ ((changes.restsOn_iff same).mpr rests)
      exact sound.keeps stores harmless same (before room (Nat.le_refl room))
  · intro other baseId size blockSize changed apart rests _ _ _ itself
    by_cases same : baseId = v.input.id
    · subst same
      have onBase := (changes.restsOn_iff apart).mp rests
      exact (harmless other _ _ _ apart onBase).1
        ((stores.restsOn itself).2.mpr .here)
    · have before := (changes.restsOn_iff same).mp itself
      by_cases renewed : other = v.input.id
      · subst renewed
        obtain ⟨base, run⟩ := (stores.restsOn rests).1
        obtain ⟨held, found⟩ := manifest_of_read run
        rw [read_over_itself (sound.fits baseId held found).1 before] at run
        cases run
      · exact sound.straight other baseId _ _ _ apart
          ((changes.restsOn_iff renewed).mp rests) _ _ _ before

theorem sound_empty : Sound root [] {} := by
  constructor
  · intro _ _ found
    cases found
  · intro _ _ last
    cases last
  · rintro other _ _ _ _ _ ⟨manifest, found, onBase⟩
    cases found

/-- A put that fails leaves the store. -/
theorem Sound.failed (sound : Sound root past v.before)
    (failed : v.output.isOk = false) (same : v.after = v.before) :
    Sound root (past ++ [v]) v.after := by
  have last : ∀ checkpointId, lastData (past ++ [v]) checkpointId =
      lastData past checkpointId := by
    intro checkpointId
    rw [lastData_append, if_neg]
    rintro ⟨-, ok⟩
    rw [failed] at ok
    cases ok
  rw [same]
  constructor
  · intro checkpointId manifest found
    rw [last]
    exact sound.fits checkpointId manifest found
  · intro checkpointId data found alone
    rw [last] at found
    exact sound.restores checkpointId data found alone
  · exact sound.straight

end Frames

section Runs

variable {host : Host} {root : List String} {depth : Nat}
variable {history : List PutVisit} {state : CheckpointFiles}

/-- A visit's put either returned, or failed and left the store. -/
theorem visit_cases (host : Host) (root : List String) (depth : Nat)
    (state : CheckpointFiles) (put : CheckpointPut) :
    let v := Run.visit (checkpointStep host root depth) state put
    (v.output.isOk = true ∧ Stores root depth v.before v.input v.after) ∨
      (v.output.isOk = false ∧ v.after = v.before) := by
  intro v
  have ran := @ensures_checkpointStep host root depth state put
  cases run : checkpointStep host root depth state put with
  | mk result later =>
      have visit : v = ⟨state, put, result, later⟩ := by
        simp only [v, Run.visit, run]
      rw [visit]
      cases result with
      | error error => exact .inr ⟨rfl, ran.of_error run⟩
      | ok manifest => exact .inl ⟨rfl, ran.of_ok run⟩

theorem Sound.framed_iff (sound : Sound root history state)
    (put : CheckpointPut) :
    let v := Run.visit (checkpointStep host root depth) state put
    Framed root v ↔ (v.output.isOk = true → Harmless history v) := by
  intro v
  rcases visit_cases host root depth state put with
    ⟨ok, stores⟩ | ⟨failed, same⟩
  · constructor
    · exact fun framed _ => Sound.harmless sound stores framed
    · exact fun harmless => Sound.framed sound stores (harmless ok)
  · apply iff_of_true
    · intro other _
      exact ⟨0, fun more _ => by rw [same]⟩
    · intro ok
      rw [failed] at ok
      cases ok

theorem Sound.next (sound : Sound root history state) (put : CheckpointPut)
    (harmless :
      let v := Run.visit (checkpointStep host root depth) state put
      v.output.isOk = true → Harmless history v) :
    Sound root (history ++ [Run.visit (checkpointStep host root depth) state put])
      (checkpointStep host root depth state put).2 := by
  rcases visit_cases host root depth state put with
    ⟨ok, stores⟩ | ⟨failed, same⟩
  · exact Sound.step sound stores ok (harmless ok)
  · exact Sound.failed sound failed same

/-- In every run of puts, whatever ids they use again, each put leaves what is
read for the other ids exactly if each put that returns is harmless. -/
theorem puts_framed_iff (host : Host) (root : List String) (depth : Nat)
    (puts : List CheckpointPut) :
    Run.Each (fun _ v => Framed root v)
        (Run.visits (checkpointStep host root depth) {} puts) ↔
      Run.Each (fun past v => v.output.isOk = true → Harmless past v)
        (Run.visits (checkpointStep host root depth) {} puts) := by
  apply Run.each_iff_of_step (@sound_empty root)
  · exact fun _ _ put sound => sound.framed_iff put
  · exact fun _ _ put sound => sound.next put

theorem putDelta_isOk {store : CheckpointDeltaStore} {baseId checkpointId : String}
    {base : Bytes} (baseIdentifier : isIdentifier baseId = true)
    (identifier : isIdentifier checkpointId = true)
    (baseRead : read store.root state depth baseId = .ok base) (data : Bytes) :
    (putDelta host store depth baseId checkpointId data state).1.isOk = true := by
  have baseChecked := @validateIdentifier_of_isIdentifier baseId
    "base checkpoint id" baseIdentifier
  have checked := @validateIdentifier_of_isIdentifier checkpointId
    "checkpoint id" identifier
  unfold putDelta
  rw [baseChecked, lift_ok_bind, checkId, checked, lift_ok_bind, get_bind,
    baseRead, lift_ok_bind, fixedChunks_of_positive _ store.positive,
    lift_ok_bind, fixedChunks_of_positive _ store.positive, lift_ok_bind,
    bind_ok (writeBlocks_run _ _ _)]
  rfl

/-- A checkpoint that is put into an empty store is read back. -/
theorem read_first_base :
    read [] (Run.visit (checkpointStep .counting [] 1000) {}
      (.base "full" [1])).after 1000 "full" = .ok [1] := by
  rcases visit_cases .counting [] 1000 {} (.base "full" [1]) with
    ⟨-, stores⟩ | ⟨failed, -⟩
  · cases stores with
    | base puts => exact puts.reads [] 999
  · cases failed

/-- A delta of one block over a checkpoint, whose id is then used again. -/
def overwritingPuts : List CheckpointPut :=
  [.base "full" [1], .delta 1 Nat.one_pos "full" "longer" [1, 2],
    .base "full" [9]]

/-- The delta no longer rebuilds. -/
theorem not_framed_of_overwritten :
    ¬ Run.Each (fun _ v => Framed [] v)
      (Run.visits (checkpointStep .counting [] 1000) {} overwritingPuts) := by
  intro framed
  let step := checkpointStep .counting [] 1000
  let longer : CheckpointPut := .delta 1 Nat.one_pos "full" "longer" [1, 2]
  obtain ⟨first, firstEq⟩ : ∃ v, v = Run.visit step {} (.base "full" [1]) :=
    ⟨_, rfl⟩
  obtain ⟨second, secondEq⟩ : ∃ v, v = Run.visit step first.after longer :=
    ⟨_, rfl⟩
  obtain ⟨third, thirdEq⟩ :
      ∃ v, v = Run.visit step second.after (.base "full" [9]) := ⟨_, rfl⟩
  have visits : Run.visits step {} overwritingPuts = [first, second, third] := by
    rw [thirdEq, secondEq, firstEq]
    rfl
  rw [visits] at framed
  -- The first two puts leave a sound store.
  have soundFirst : Sound [] [first] first.after := by
    have harmless := framed [] first [second, third] rfl
    rw [firstEq] at harmless ⊢
    exact sound_empty.next _ ((sound_empty.framed_iff _).mp harmless)
  have soundSecond : Sound [] [first, second] second.after := by
    have harmless := framed [first] second [third] rfl
    rw [secondEq] at harmless ⊢
    exact soundFirst.next _ ((soundFirst.framed_iff _).mp harmless)
  have okFirst : first.output.isOk = true := by
    rw [firstEq]
    rfl
  have read : read [] first.after 1000 "full" = .ok [1] := by
    rw [firstEq]
    exact read_first_base
  have rests : RestsOn second.after "longer" "full" 2 1
      [changedBlock "longer" (.ofData 1 [2], 1)] := by
    rcases visit_cases .counting [] 1000 first.after longer with
      ⟨-, stores⟩ | ⟨failed, -⟩
    · rw [secondEq]
      cases stores with
      | delta puts =>
          cases read.symm.trans puts.baseRead
          have baseChunks := Except.ok.inj puts.baseCut
          have targetChunks := Except.ok.inj puts.targetCut
          obtain ⟨createdAt, avoided, manifests⟩ := puts.manifest
          rw [← baseChunks, ← targetChunks] at manifests
          exact ⟨_, lookup_of_insert manifests, .intro⟩
    · have ok := @putDelta_isOk .counting 1000 first.after ⟨[], 1, by decide⟩
        "full" "longer" [1] rfl rfl read [1, 2]
      exact absurd (ok.symm.trans failed) (by decide)
  -- The third one is not harmless.
  have harmless : Harmless [first, second] third := by
    have framed := framed [first, second] third [] rfl
    rw [thirdEq] at framed ⊢
    exact (soundSecond.framed_iff _).mp framed rfl
  have last : lastData [first, second] "full" = some [1] := by
    have split : [first, second] = ([] ++ [first]) ++ [second] := rfl
    have named : ¬ (second.input.id = "full" ∧ second.output.isOk = true) := by
      rw [secondEq]
      have different : "longer" ≠ "full" := by decide
      exact fun both => different both.1
    have stored : first.input.id = "full" ∧ first.output.isOk = true :=
      ⟨by rw [firstEq]; rfl, okFirst⟩
    rw [split, lastData_append, if_neg named, lastData_append, if_pos stored,
      firstEq]
    rfl
  rw [thirdEq] at harmless
  have apart : "longer" ≠ "full" := by decide
  obtain ⟨-, old, oldLast, agree⟩ := harmless "longer" 2 1 _ apart rests
  cases oldLast.symm.trans last
  have byte : ([9] : Bytes)[0]? = ([1] : Bytes)[0]? :=
    agree 0 (by decide) (by decide)
  exact absurd byte (by decide)

end Runs

end CheckpointDeltaStore

end Urp
