import Mathlib.Data.List.Flatten
import Urp.Checkpoints
import Urp.ChunkPuts
import Urp.Library.Blocks
import Urp.Library.Run

/-!
# Chains of checkpoint deltas

Each put writes files of its own checkpoint id only.  When no id is used
twice, the files of the earlier checkpoints stay, and with them what every
chain restores.
-/

namespace Urp

open Python Program

namespace CheckpointDeltaStore

/-! ## File names -/

/-- A file that puts under this id may write. -/
inductive FileOf (checkpointId : String) : List String → Prop where
  | base : FileOf checkpointId [baseName checkpointId]
  | block (index : Nat) : FileOf checkpointId [blockName checkpointId index]

theorem toList_baseName (checkpointId : String) :
    (baseName checkpointId).toList = checkpointId.toList ++ '.' :: "base".toList := by
  simp [baseName, String.toList_append]

theorem toList_blockName (checkpointId : String) (index : Nat) :
    (blockName checkpointId index).toList =
      (checkpointId.toList ++ ".block".toList) ++ '.' :: (toString index).toList := by
  simp [blockName, String.toList_append]

theorem digits_toString {index : Nat} {c : Char}
    (member : c ∈ (toString index).toList) : c.isDigit = true := by
  have text : (toString index).toList = Nat.toDigits 10 index := by
    simp [toString, Nat.repr]
  rw [text] at member
  exact Nat.isDigit_of_mem_toDigits (by decide) (by decide) member

/-- What stands after the last dot of a name, and what before it. -/
theorem split_of_dots {first second left right : List Char}
    (firstPlain : '.' ∉ left) (secondPlain : '.' ∉ right)
    (same : first ++ '.' :: left = second ++ '.' :: right) :
    first = second ∧ left = right := by
  have ending : ∀ {before after : List Char}, '.' ∉ after →
      (before ++ '.' :: after).reverse.takeWhile (· ≠ '.') = after.reverse := by
    intro before after plain
    have text : (before ++ '.' :: after).reverse =
        after.reverse ++ '.' :: before.reverse := by
      simp
    have own : ∀ c ∈ after.reverse, decide (c ≠ '.') = true := by
      intro c member
      rw [decide_eq_true_eq]
      rintro rfl
      exact plain (List.mem_reverse.mp member)
    rw [text, List.takeWhile_append_of_pos own]
    simp
  have tails := @ending first left firstPlain
  rw [same, ending secondPlain] at tails
  have after : left = right := (List.reverse_injective tails).symm
  rw [after] at same
  exact ⟨List.append_cancel_right same, after⟩

theorem dot_not_mem_toString (index : Nat) : '.' ∉ (toString index).toList := by
  intro member
  have digit := digits_toString member
  revert digit
  decide

theorem blockName_inj {checkpointId other : String} {index j : Nat}
    (same : blockName checkpointId index = blockName other j) :
    checkpointId = other ∧ index = j := by
  have texts := congrArg String.toList same
  rw [toList_blockName, toList_blockName] at texts
  obtain ⟨ids, digits⟩ := split_of_dots (dot_not_mem_toString index)
    (dot_not_mem_toString j) texts
  refine ⟨String.toList_inj.mp (List.append_cancel_right ids), ?_⟩
  have numbers := congrArg (fun text => Nat.ofDigitChars 10 text 0) digits
  simpa [Nat.toString_eq_ofList_toDigits] using numbers

/-- No file belongs to two ids. -/
theorem FileOf.unique {checkpointId other : String} {path : List String}
    (own : FileOf checkpointId path) (foreign : FileOf other path) :
    checkpointId = other := by
  have apart : ∀ {checkpointId other : String} {index : Nat},
      baseName checkpointId ≠ blockName other index := by
    intro checkpointId other index same
    have texts := congrArg String.toList same
    rw [toList_baseName, toList_blockName] at texts
    obtain ⟨-, digits⟩ := split_of_dots (by decide)
      (dot_not_mem_toString index) texts
    have letter : 'b' ∈ (toString index).toList := by
      rw [← digits]
      decide
    have digit := digits_toString letter
    revert digit
    decide
  generalize eq : path = named at foreign
  cases own with
  | base =>
      cases foreign with
      | base =>
          have texts := congrArg String.toList (List.cons.inj eq).1
          rw [toList_baseName, toList_baseName] at texts
          exact String.toList_inj.mp (List.append_cancel_right texts)
      | block index => exact absurd (List.cons.inj eq).1 apart
  | block index =>
      cases foreign with
      | base => exact absurd (List.cons.inj eq).1.symm apart
      | block j => exact (blockName_inj (List.cons.inj eq).1).1

theorem slash_not_mem_of_isIdentifier {value : String}
    (identifier : isIdentifier value = true) : '/' ∉ value.toList := by
  intro member
  unfold isIdentifier at identifier
  have plain : ∀ c : Char, isIdentifierChar c = true → c ≠ '/' := by
    rintro c valid rfl
    revert valid
    decide
  split at identifier
  · rename_i empty
    rw [empty] at member
    cases member
  · rename_i first rest text
    simp only [Bool.and_eq_true, List.all_eq_true] at identifier
    rw [text] at member
    rcases List.mem_cons.mp member with rfl | later
    · exact absurd identifier.1.1 (by decide)
    · exact plain '/' (identifier.1.2 '/' later) rfl

/-- A reference of one plain name resolves to it. -/
theorem resolveUnder_name (root : List String) {name : String}
    (plain : '/' ∉ name.toList) (isName : IsPlainName name) :
    resolveUnder root name = .ok [name] := by
  have text : name = asPosix [name] := by
    apply String.toList_inj.mp
    simp [asPosix, List.intercalate]
  have resolved := @resolveUnder_asPosix root [name] (by simp) (by simpa)
    (by simpa)
  rwa [← text] at resolved

theorem isPlainName_blockName {checkpointId : String}
    (identifier : isIdentifier checkpointId = true) (index : Nat) :
    IsPlainName (blockName checkpointId index) ∧
      '/' ∉ (blockName checkpointId index).toList := by
  have text := toList_blockName checkpointId index
  constructor
  · have letter : 'b' ∈ (blockName checkpointId index).toList := by
      rw [text]
      simp
    refine ⟨?_, ?_, ?_⟩ <;> intro same <;> rw [same] at letter <;>
      revert letter <;> decide
  · rw [text]
    simp only [List.mem_append, List.mem_cons, not_or]
    refine ⟨⟨slash_not_mem_of_isIdentifier identifier, by decide⟩, by decide, ?_⟩
    intro member
    have digit := digits_toString member
    revert digit
    decide

theorem resolveUnder_blockName (root : List String) {checkpointId : String}
    (identifier : isIdentifier checkpointId = true) (index : Nat) :
    resolveUnder root (blockName checkpointId index) =
      .ok [blockName checkpointId index] := by
  obtain ⟨isName, plain⟩ := isPlainName_blockName identifier index
  exact resolveUnder_name root plain isName

/-! ## Writing blocks -/

/-- The entry of `changed_blocks` for a block. -/
def changedBlock (checkpointId : String) (entry : Chunk × Nat) : ChangedBlock :=
  ⟨entry.2, blockName checkpointId entry.2, entry.1.data.length,
    entry.1.sha256⟩

def writeBlocks (checkpointId : String) (entries : List (Chunk × Nat))
    (state : CheckpointFiles) : CheckpointFiles :=
  entries.foldl (fun state entry =>
    state.write (blockName checkpointId entry.2) entry.1.data) state

theorem writeBlocks_run (checkpointId : String) (entries : List (Chunk × Nat))
    (state : CheckpointFiles) :
    forEach entries (writeBlock checkpointId) state =
      (.ok (entries.map (changedBlock checkpointId)),
        writeBlocks checkpointId entries state) := by
  induction entries generalizing state with
  | nil => rfl
  | cons entry rest ih =>
      have head : writeBlock checkpointId entry state =
          (.ok (changedBlock checkpointId entry),
            state.write (blockName checkpointId entry.2) entry.1.data) := rfl
      rw [forEach, bind_ok head, bind_ok (ih _)]
      rfl

theorem manifests_writeBlocks (checkpointId : String)
    (entries : List (Chunk × Nat)) (state : CheckpointFiles) :
    (writeBlocks checkpointId entries state).manifests = state.manifests := by
  induction entries generalizing state with
  | nil => rfl
  | cons entry rest ih => exact ih _

/-- Blocks are only written to files of the id. -/
theorem lookup_writeBlocks_ne {checkpointId : String}
    (entries : List (Chunk × Nat)) (state : CheckpointFiles)
    {path : List String} (foreign : ¬ FileOf checkpointId path) :
    (writeBlocks checkpointId entries state).files.lookup path =
      state.files.lookup path := by
  induction entries generalizing state with
  | nil => rfl
  | cons entry rest ih =>
      have different : [blockName checkpointId entry.2] ≠ path := by
        rintro rfl
        exact foreign (.block entry.2)
      exact (ih _).trans (Dict.lookup_insert_ne _ _ different)

theorem lookup_writeBlocks_of_absent {checkpointId : String}
    {entries : List (Chunk × Nat)} {index : Nat}
    (absent : index ∉ entries.map Prod.snd) (state : CheckpointFiles) :
    (writeBlocks checkpointId entries state).files.lookup
        [blockName checkpointId index] =
      state.files.lookup [blockName checkpointId index] := by
  induction entries generalizing state with
  | nil => rfl
  | cons entry rest ih =>
      simp only [List.map_cons, List.mem_cons, not_or] at absent
      have different : [blockName checkpointId entry.2] ≠
          [blockName checkpointId index] := by
        intro same
        exact absent.1 (blockName_inj (List.cons.inj same).1).2.symm
      exact (ih absent.2 _).trans (Dict.lookup_insert_ne _ _ different)

/-- Blocks with distinct indices are all there in the end. -/
theorem lookup_writeBlocks {checkpointId : String}
    {entries : List (Chunk × Nat)} (distinct : (entries.map Prod.snd).Nodup)
    (state : CheckpointFiles) {entry : Chunk × Nat} (member : entry ∈ entries) :
    (writeBlocks checkpointId entries state).files.lookup
      [blockName checkpointId entry.2] = some entry.1.data := by
  induction entries generalizing state with
  | nil => cases member
  | cons head rest ih =>
      obtain ⟨fresh, others⟩ := List.nodup_cons.mp distinct
      rcases List.mem_cons.mp member with rfl | later
      · exact (lookup_writeBlocks_of_absent fresh _).trans
          (Dict.lookup_insert_self _ _ _)
      · exact ih others _ later

/-! ## Rebuilding the data -/

/-- The blocks of a target that starts at an index, those chosen. -/
def selected (chosen : Nat → Bool) (target : List Chunk) (start : Nat) :
    List (Chunk × Nat) :=
  (target.zipIdx start).filter fun entry => chosen entry.2

theorem selected_cons (chosen : Nat → Bool) (chunk : Chunk)
    (rest : List Chunk) (start : Nat) :
    selected chosen (chunk :: rest) start =
      if chosen start then (chunk, start) :: selected chosen rest (start + 1)
      else selected chosen rest (start + 1) := by
  rw [selected, List.zipIdx_cons, List.filter_cons]
  rfl

theorem distinct_selected (chosen : Nat → Bool) (target : List Chunk)
    (start : Nat) : ((selected chosen target start).map Prod.snd).Nodup := by
  have indices : ((target.zipIdx start).map Prod.snd).Nodup := by
    rw [List.zipIdx_map_snd]
    exact List.nodup_range'
  exact indices.sublist (List.filter_sublist.map Prod.snd)

theorem mem_selected_iff {chosen : Nat → Bool} {target : List Chunk}
    {index : Nat} :
    index ∈ (selected chosen target 0).map Prod.snd ↔
      index < target.length ∧ chosen index = true := by
  simp only [selected, List.mem_map, List.mem_filter, Prod.exists,
    List.mem_zipIdx_iff_getElem?]
  constructor
  · rintro ⟨chunk, j, ⟨found, taken⟩, rfl⟩
    exact ⟨(List.getElem?_eq_some_iff.mp found).1, taken⟩
  · rintro ⟨inside, taken⟩
    exact ⟨target[index], index, ⟨List.getElem?_eq_getElem inside, taken⟩, rfl⟩

/-- The blocks where the target differs from the base. -/
def differs (base target : List Chunk) (index : Nat) : Bool :=
  base[index]?.map Chunk.data ≠ target[index]?.map Chunk.data

theorem changedChunks_eq_selected (base target : List Chunk) :
    changedChunks base target = selected (differs base target) target 0 := by
  apply List.filter_congr
  intro entry member
  have found := List.mem_zipIdx_iff_getElem?.mp member
  simp [differs, found]

/-- The chunks of a fixed size are the blocks of the data. -/
theorem blocks_fixedLoop {size : Nat} (positive : 0 < size) {fuel : Nat}
    (start : Nat) {data : Bytes} (enough : data.length ≤ fuel) :
    (fixedLoop size fuel start data).map Chunk.data =
        Blocks.cut size (fixedLoop size fuel start data).length data ∧
      Blocks.Fills size (fixedLoop size fuel start data).length data := by
  induction fuel generalizing start data with
  | zero =>
      rw [List.eq_nil_of_length_eq_zero (Nat.le_zero.mp enough)]
      exact ⟨rfl, Nat.zero_le _, fun k below => absurd below (Nat.not_lt_zero k)⟩
  | succ fuel ih =>
      cases data with
      | nil =>
          exact ⟨rfl, Nat.zero_le _,
            fun k below => absurd below (Nat.not_lt_zero k)⟩
      | cons b rest =>
          have shorter : ((b :: rest).drop size).length ≤ fuel := by
            rw [List.length_drop, List.length_cons]
            rw [List.length_cons] at enough
            omega
          obtain ⟨blocks, fills⟩ := ih (start + size) shorter
          have loop : fixedLoop size (fuel + 1) start (b :: rest) =
              .ofData start ((b :: rest).take size) ::
                fixedLoop size fuel (start + size) ((b :: rest).drop size) := rfl
          rw [loop, List.map_cons, List.length_cons, Blocks.cut, blocks]
          exact ⟨rfl, fills.of_drop (List.cons_ne_nil b rest)⟩

theorem fixedChunks_of_positive (data : Bytes) {size : Nat}
    (positive : 0 < size) :
    fixedChunks data size = .ok (fixedLoop size data.length 0 data) := by
  rw [fixedChunks, if_neg (Nat.ne_of_gt positive)]

/-- What a cut into chunks of a fixed size gives. -/
structure CutInto (size : Nat) (data : Bytes) (chunks : List Chunk) : Prop where
  positive : 0 < size
  blocks : chunks.map Chunk.data = Blocks.cut size chunks.length data
  fills : Blocks.Fills size chunks.length data

theorem cutInto_of_fixedChunks {size : Nat} {data : Bytes} {chunks : List Chunk}
    (cut : fixedChunks data size = .ok chunks) : CutInto size data chunks := by
  unfold fixedChunks at cut
  split at cut
  · cases cut
  · rename_i nonzero
    cases cut
    have positive := Nat.pos_of_ne_zero nonzero
    obtain ⟨blocks, fills⟩ :=
      @blocks_fixedLoop size positive data.length 0 data (Nat.le_refl _)
    exact ⟨positive, blocks, fills⟩

/-- The padded blocks of a base, those below the count of the target first. -/
theorem padded_eq {size : Nat} {base : Bytes} {chunks : List Chunk}
    (cut : CutInto size base chunks) (count : Nat) :
    padded chunks count = Blocks.cut size count base ++
      Blocks.cut size (chunks.length - count) (base.drop (count * size)) := by
  have ended : base.drop (chunks.length * size) = [] := by
    rw [List.drop_eq_nil_iff]
    exact cut.fills.covered
  have total : chunks.length + (count - chunks.length) =
      count + (chunks.length - count) := by
    omega
  calc
    padded chunks count =
        Blocks.cut size chunks.length base ++
          Blocks.cut size (count - chunks.length)
            (base.drop (chunks.length * size)) := by
      rw [padded, cut.blocks, ended, Blocks.cut_nil]
    _ = Blocks.cut size (count + (chunks.length - count)) base := by
      rw [← Blocks.cut_add, total]
    _ = _ := Blocks.cut_add _ _ _ _

/-- The two agree outside of the blocks of a delta. -/
def AgreesOutside (size blockSize : Nat) (changedBlocks : List ChangedBlock)
    (one other : Bytes) : Prop :=
  ∀ i < size, i / blockSize ∉ changedBlocks.map ChangedBlock.index →
    one[i]? = other[i]?

/-- A base agrees with the target where its blocks do. -/
theorem agreesOutside_of_cutInto {blockSize : Nat} {base data : Bytes}
    {chunks target : List Chunk} (baseCut : CutInto blockSize base chunks)
    (cut : CutInto blockSize data target) (checkpointId : String) :
    AgreesOutside data.length blockSize
      ((selected (differs chunks target) target 0).map
        (changedBlock checkpointId)) base data := by
  intro i below unchanged
  have inside : i / blockSize < target.length := by
    rw [Nat.div_lt_iff_lt_mul cut.positive]
    exact Nat.lt_of_lt_of_le below cut.fills.covered
  have same : chunks[i / blockSize]?.map Chunk.data =
      target[i / blockSize]?.map Chunk.data := by
    by_contra different
    apply unchanged
    rw [List.map_map]
    exact mem_selected_iff.mpr ⟨inside, decide_eq_true different⟩
  rw [← List.getElem?_map, ← List.getElem?_map, baseCut.blocks, cut.blocks]
    at same
  exact Blocks.getElem?_of_cut cut.positive inside same

section Patching

variable {root : List String} {state : CheckpointFiles} {checkpointId : String}
variable (identifier : isIdentifier checkpointId = true)

include identifier

/-- Patching lays the chosen blocks of the target over those that are there;
the induction is on the part of the target that is still to come. -/
theorem patch_selected {chosen : Nat → Bool} {target : List Chunk}
    {done rest : List Bytes} (room : target.length ≤ rest.length)
    (written : ∀ entry ∈ selected chosen target done.length,
      state.files.lookup [blockName checkpointId entry.2] = some entry.1.data) :
    patch root state
        ((selected chosen target done.length).map (changedBlock checkpointId))
        (done ++ rest) =
      .ok (done ++ Blocks.overlay chosen done.length (target.map Chunk.data) rest
        ++ rest.drop target.length) := by
  induction target generalizing done rest with
  | nil => simp [selected, patch, Blocks.overlay]
  | cons chunk later ih =>
      cases rest with
      | nil => simp at room
      | cons block blocks =>
          have next : ∀ kept : Bytes,
              patch root state
                ((selected chosen later (done.length + 1)).map
                  (changedBlock checkpointId)) ((done ++ [kept]) ++ blocks) =
              .ok (done ++ kept :: Blocks.overlay chosen (done.length + 1)
                (later.map Chunk.data) blocks ++ blocks.drop later.length) := by
            intro kept
            have step := @ih (done ++ [kept]) blocks
              (Nat.le_of_succ_le_succ room)
              (by
                intro entry member
                rw [List.length_append, List.length_singleton] at member
                apply written entry
                rw [selected_cons]
                split
                · exact List.mem_cons_of_mem _ member
                · exact member)
            rw [List.length_append, List.length_singleton] at step
            rw [step]
            simp
          rw [selected_cons]
          split
          · rename_i taken
            have found := written (chunk, done.length) (by
              rw [selected_cons, if_pos taken]
              exact List.mem_cons_self)
            have path := resolveUnder_blockName root identifier done.length
            simp only [List.map_cons, patch, changedBlock, path, bind,
              Except.bind, found, chunk.digested, ne_eq, not_true_eq_false,
              if_false]
            rw [if_pos (by simp)]
            simpa [Blocks.overlay, taken] using next chunk.data
          · rename_i kept
            simpa [Blocks.overlay, kept] using next block

/-- A delta restores its data from the bytes of its base exactly if these agree
with the data outside of the delta's blocks. -/
theorem rebuild_eq_ok_iff {chosen : Nat → Bool} {base data : Bytes}
    {blockSize : Nat} {target : List Chunk}
    (cut : CutInto blockSize data target)
    (written : ∀ entry ∈ selected chosen target 0,
      state.files.lookup [blockName checkpointId entry.2] = some entry.1.data) :
    rebuild root state base (Python.sha256 data) data.length blockSize
        ((selected chosen target 0).map (changedBlock checkpointId))
        target.length = .ok data ↔
      AgreesOutside data.length blockSize
        ((selected chosen target 0).map (changedBlock checkpointId)) base data := by
  have baseCut := fixedChunks_of_positive base cut.positive
  obtain ⟨chunks, eq⟩ : ∃ chunks, chunks =
    fixedLoop blockSize base.length 0 base := ⟨_, rfl⟩
  rw [← eq] at baseCut
  have blocks := padded_eq (cutInto_of_fixedChunks baseCut) target.length
  have length : (Blocks.cut blockSize target.length base).length =
      target.length := Blocks.length_cut _ _ _
  have patched := @patch_selected root state checkpointId identifier chosen
    target [] (padded chunks target.length) (by simp [blocks, length]) written
  rw [List.nil_append, List.nil_append, List.length_nil, blocks,
    Blocks.overlay_append, List.drop_left' length, ← blocks] at patched
  · have remaining : (Blocks.cut blockSize (chunks.length - target.length)
        (base.drop (target.length * blockSize))).flatten =
        base.drop (target.length * blockSize) := by
      apply Blocks.flatten_cut
      have covered := (cutInto_of_fixedChunks baseCut).fills.covered
      rw [List.length_drop, Nat.sub_mul]
      omega
    have outside : ∀ i < data.length,
        (chosen (0 + i / blockSize) = false ↔ i / blockSize ∉
          ((selected chosen target 0).map
            (changedBlock checkpointId)).map ChangedBlock.index) := by
      intro i below
      have indices : ((selected chosen target 0).map
          (changedBlock checkpointId)).map ChangedBlock.index =
          (selected chosen target 0).map Prod.snd := by
        rw [List.map_map]
        rfl
      have inside : i / blockSize < target.length := by
        rw [Nat.div_lt_iff_lt_mul cut.positive]
        exact Nat.lt_of_lt_of_le below cut.fills.covered
      rw [indices, mem_selected_iff, Nat.zero_add]
      simp [inside]
    have agree : AgreesOutside data.length blockSize
        ((selected chosen target 0).map (changedBlock checkpointId)) base data ↔
        ∀ i < data.length, chosen (0 + i / blockSize) = false →
          base[i]? = data[i]? :=
      forall_congr' fun i => forall_congr' fun below =>
        imp_congr_left (outside i below).symm
    rw [agree, ← Blocks.take_overlay_eq_iff cut.positive chosen cut.fills]
    simp only [rebuild, baseCut, bind, Except.bind, patched,
      List.flatten_append, remaining, cut.blocks]
    constructor
    · intro run
      split at run
      · cases run
      · exact Except.ok.inj run
    · intro same
      rw [same, if_neg (not_not_intro rfl)]
  · rw [List.length_map, length]

end Patching

/-! ## Reading from a store that has grown -/

/-- The later store has every file and every manifest of the earlier one. -/
structure Extends (state later : CheckpointFiles) : Prop where
  files : ∀ path data, state.files.lookup path = some data →
    later.files.lookup path = some data
  manifests : ∀ checkpointId manifest,
    state.manifests.lookup checkpointId = some manifest →
      later.manifests.lookup checkpointId = some manifest

section Growing

variable {root : List String} {state later : CheckpointFiles}

theorem Extends.refl (state : CheckpointFiles) : Extends state state :=
  ⟨fun _ _ found => found, fun _ _ found => found⟩

theorem Extends.patch (grows : Extends state later)
    {changed : List ChangedBlock} {blocks result : List Bytes}
    (run : CheckpointDeltaStore.patch root state changed blocks = .ok result) :
    CheckpointDeltaStore.patch root later changed blocks = .ok result := by
  induction changed generalizing blocks with
  | nil => exact run
  | cons first rest ih =>
      simp only [CheckpointDeltaStore.patch] at run ⊢
      obtain ⟨path, resolved, run⟩ := except_bind_eq_ok_iff.mp run
      refine except_bind_eq_ok_iff.mpr ⟨path, resolved, ?_⟩
      cases found : state.files.lookup path with
      | none =>
          rw [found] at run
          cases run
      | some block =>
          rw [found] at run
          rw [grows.files path block found]
          dsimp only at run ⊢
          split at run
          · cases run
          · rename_i sameSum
            rw [if_neg sameSum]
            split at run
            · rename_i inside
              rw [if_pos inside]
              exact ih run
            · cases run

theorem Extends.rebuild (grows : Extends state later) {base data : Bytes}
    {sha256 : String} {size blockSize count : Nat}
    {changed : List ChangedBlock}
    (run : CheckpointDeltaStore.rebuild root state base sha256 size blockSize
      changed count = .ok data) :
    CheckpointDeltaStore.rebuild root later base sha256 size blockSize changed
      count = .ok data := by
  obtain ⟨chunks, cut, run⟩ := except_bind_eq_ok_iff.mp run
  obtain ⟨blocks, patched, run⟩ := except_bind_eq_ok_iff.mp run
  exact except_bind_eq_ok_iff.mpr ⟨chunks, cut,
    except_bind_eq_ok_iff.mpr ⟨blocks, grows.patch patched, run⟩⟩

/-- What is read is still read later, and with more room on the stack. -/
theorem Extends.read (grows : Extends state later) {depth more : Nat}
    (deeper : depth ≤ more) {checkpointId : String} {data : Bytes}
    (run : CheckpointDeltaStore.read root state depth checkpointId =
      .ok data) :
    CheckpointDeltaStore.read root later more checkpointId = .ok data := by
  induction depth generalizing more checkpointId data with
  | zero => cases run
  | succ depth ih =>
      obtain ⟨more, rfl⟩ : ∃ k, more = k + 1 := ⟨more - 1, by omega⟩
      have below : depth ≤ more := Nat.le_of_succ_le_succ deeper
      simp only [CheckpointDeltaStore.read] at run ⊢
      obtain ⟨named, checked, run⟩ := except_bind_eq_ok_iff.mp run
      refine except_bind_eq_ok_iff.mpr ⟨named, checked, ?_⟩
      cases found : state.manifests.lookup named with
      | none =>
          rw [found] at run
          cases run
      | some manifest =>
          rw [found] at run
          rw [grows.manifests named manifest found]
          cases manifest with
          | base _ sha256 _ _ =>
              dsimp only at run ⊢
              cases held : state.files.lookup [baseName named] with
              | none =>
                  rw [held] at run
                  cases run
              | some bytes =>
                  rw [held] at run
                  rw [grows.files _ bytes held]
                  exact run
          | delta _ baseId sha256 size blockSize changed _ count _ _ =>
              dsimp only at run ⊢
              obtain ⟨base, baseRun, run⟩ := except_bind_eq_ok_iff.mp run
              exact except_bind_eq_ok_iff.mpr
                ⟨base, ih below baseRun, grows.rebuild run⟩

end Growing

/-! ## What a put does -/

section Puts

variable (host : Host) (store : CheckpointDeltaStore) (depth : Nat)
variable (state : CheckpointFiles)

/-- A put of a whole checkpoint. -/
structure PutsBase (checkpointId : String) (data : Bytes)
    (later : CheckpointFiles) : Prop where
  identifier : isIdentifier checkpointId = true
  files : later.files = state.files.insert [baseName checkpointId] data
  manifest : ∃ createdAt, later.manifests = state.manifests.insert checkpointId
    (.base checkpointId (Python.sha256 data) data.length createdAt)

theorem ensures_putBase (checkpointId : String) (data : Bytes) :
    Ensures (putBase host checkpointId data) state
      (fun _ later => PutsBase state checkpointId data later)
      (fun _ later => later = state) := by
  unfold putBase
  rw [ensures_bind, ensures_lift]
  refine ⟨fun named checked => ?_, fun _ _ => rfl⟩
  obtain ⟨rfl, identifier⟩ := validateIdentifier_eq_ok checked
  rw [ensures_bind, ensures_modify, ensures_bind, ensures_focus]
  apply (host.ensures_utcNow _).mono
  · rintro createdAt part rfl
    exact ⟨identifier, rfl, createdAt, rfl⟩
  · exact fun _ _ impossible => impossible.elim

/-- A put of a delta over the bytes that its base restores. -/
structure PutsDelta (baseId checkpointId : String) (data base : Bytes)
    (baseChunks targetChunks : List Chunk) (later : CheckpointFiles) :
    Prop where
  identifier : isIdentifier checkpointId = true
  baseRead : read store.root state depth baseId = .ok base
  baseCut : fixedChunks base store.blockSize = .ok baseChunks
  targetCut : fixedChunks data store.blockSize = .ok targetChunks
  files : later.files = (writeBlocks checkpointId
    (changedChunks baseChunks targetChunks) state).files
  manifest : ∃ createdAt avoided, later.manifests =
    state.manifests.insert checkpointId (.delta checkpointId baseId
      (Python.sha256 data) data.length store.blockSize
      ((changedChunks baseChunks targetChunks).map (changedBlock checkpointId))
      baseChunks.length targetChunks.length createdAt avoided)

theorem ensures_putDelta (baseId checkpointId : String) (data : Bytes) :
    Ensures (putDelta host store depth baseId checkpointId data) state
      (fun _ later => ∃ base baseChunks targetChunks, PutsDelta store depth
        state baseId checkpointId data base baseChunks targetChunks later)
      (fun _ later => later = state) := by
  unfold putDelta
  rw [ensures_bind, ensures_lift]
  refine ⟨fun baseNamed baseChecked => ?_, fun _ _ => rfl⟩
  obtain ⟨rfl, -⟩ := validateIdentifier_eq_ok baseChecked
  rw [ensures_bind, ensures_lift]
  refine ⟨fun named checked => ?_, fun _ _ => rfl⟩
  obtain ⟨rfl, identifier⟩ := validateIdentifier_eq_ok checked
  rw [ensures_bind, ensures_get, ensures_bind, ensures_lift]
  refine ⟨fun base baseRead => ?_, fun _ _ => rfl⟩
  rw [ensures_bind, ensures_lift]
  refine ⟨fun baseChunks baseCut => ?_, fun _ _ => rfl⟩
  rw [ensures_bind, ensures_lift]
  refine ⟨fun targetChunks targetCut => ?_, fun _ _ => rfl⟩
  rw [ensures_bind, ensures_of_run (writeBlocks_run _ _ _), ensures_bind,
    ensures_focus]
  apply (host.ensures_utcNow _).mono
  · rintro createdAt part rfl
    refine ⟨base, baseChunks, targetChunks, identifier, baseRead, baseCut,
      targetCut, rfl, createdAt,
      data.length - (((changedChunks baseChunks targetChunks).map
        (changedBlock named)).map ChangedBlock.size).sum, ?_⟩
    rw [← manifests_writeBlocks named
      (changedChunks baseChunks targetChunks) state]
    rfl
  · exact fun _ _ impossible => impossible.elim

end Puts

/-- What a successful put changes: files of its id, and its manifest. -/
structure Changes (state : CheckpointFiles) (checkpointId : String)
    (later : CheckpointFiles) : Prop where
  files : ∀ path, ¬ FileOf checkpointId path →
    later.files.lookup path = state.files.lookup path
  manifests : ∃ manifest,
    later.manifests = state.manifests.insert checkpointId manifest

section Changes

variable {store : CheckpointDeltaStore} {depth : Nat}
variable {state later : CheckpointFiles} {checkpointId : String} {data : Bytes}

theorem PutsBase.changes (puts : PutsBase state checkpointId data later) :
    Changes state checkpointId later := by
  obtain ⟨createdAt, manifests⟩ := puts.manifest
  refine ⟨fun path foreign => ?_, _, manifests⟩
  have different : [baseName checkpointId] ≠ path := by
    rintro rfl
    exact foreign .base
  rw [puts.files]
  exact Dict.lookup_insert_ne _ _ different

theorem PutsDelta.changes {baseId : String} {base : Bytes}
    {baseChunks targetChunks : List Chunk}
    (puts : PutsDelta store depth state baseId checkpointId data base baseChunks
      targetChunks later) :
    Changes state checkpointId later := by
  obtain ⟨createdAt, avoided, manifests⟩ := puts.manifest
  refine ⟨fun path foreign => ?_, _, manifests⟩
  rw [puts.files]
  exact lookup_writeBlocks_ne _ _ foreign

/-- A whole checkpoint reads back. -/
theorem PutsBase.reads (puts : PutsBase state checkpointId data later)
    (root : List String) (more : Nat) :
    read root later (more + 1) checkpointId = .ok data := by
  obtain ⟨createdAt, manifests⟩ := puts.manifest
  have checked := @validateIdentifier_of_isIdentifier checkpointId
    "checkpoint id" puts.identifier
  simp only [read, checkId, checked, bind, Except.bind, manifests,
    Dict.lookup_insert_self, puts.files, ne_eq, not_true_eq_false, if_false]

theorem PutsDelta.written {baseId : String} {base : Bytes}
    {baseChunks targetChunks : List Chunk}
    (puts : PutsDelta store depth state baseId checkpointId data base baseChunks
      targetChunks later) :
    ∀ entry ∈ selected (differs baseChunks targetChunks) targetChunks 0,
      later.files.lookup [blockName checkpointId entry.2] =
        some entry.1.data := by
  intro entry member
  rw [puts.files, changedChunks_eq_selected]
  exact lookup_writeBlocks (distinct_selected _ targetChunks 0) state member

/-- A delta reads back where its base still reads as it did. -/
theorem PutsDelta.reads {baseId : String} {base : Bytes}
    {baseChunks targetChunks : List Chunk}
    (puts : PutsDelta store depth state baseId checkpointId data base baseChunks
      targetChunks later)
    {root : List String} {more : Nat}
    (baseRead : read root later more baseId = .ok base) :
    read root later (more + 1) checkpointId = .ok data := by
  obtain ⟨createdAt, avoided, manifests⟩ := puts.manifest
  have checked := @validateIdentifier_of_isIdentifier checkpointId
    "checkpoint id" puts.identifier
  have target := cutInto_of_fixedChunks puts.targetCut
  have selects := changedChunks_eq_selected baseChunks targetChunks
  have rebuilt := (@rebuild_eq_ok_iff root later checkpointId puts.identifier _
    base data _ _ target puts.written).mpr
      (agreesOutside_of_cutInto (cutInto_of_fixedChunks puts.baseCut) target _)
  rw [← selects] at rebuilt
  simp only [read, checkId, checked, bind, Except.bind, manifests,
    Dict.lookup_insert_self, baseRead]
  exact rebuilt

end Changes

end CheckpointDeltaStore

/-! ## Runs of puts -/

inductive CheckpointPut where
  | base (checkpointId : String) (data : Bytes)
  | delta (blockSize : Nat) (positive : 0 < blockSize)
      (baseId checkpointId : String) (data : Bytes)

namespace CheckpointPut

def id : CheckpointPut → String
  | base checkpointId _ | delta _ _ _ checkpointId _ => checkpointId

def data : CheckpointPut → Bytes
  | base _ data | delta _ _ _ _ data => data

end CheckpointPut

/-- One put, by a store of its own block size over the directory. -/
def checkpointStep (host : Host) (root : List String) (depth : Nat)
    (state : CheckpointFiles) :
    CheckpointPut → Except PyException CheckpointManifest × CheckpointFiles
  | .base checkpointId data =>
      CheckpointDeltaStore.putBase host checkpointId data state
  | .delta blockSize positive baseId checkpointId data =>
      CheckpointDeltaStore.putDelta host ⟨root, blockSize, positive⟩ depth
        baseId checkpointId data state

namespace CheckpointDeltaStore

variable {host : Host} {root : List String} {depth : Nat}

/-- What a put that succeeds does. -/
inductive Stores (root : List String) (depth : Nat) (state : CheckpointFiles) :
    CheckpointPut → CheckpointFiles → Prop where
  | base {checkpointId : String} {data : Bytes} {later : CheckpointFiles}
      (puts : PutsBase state checkpointId data later) :
      Stores root depth state (.base checkpointId data) later
  | delta {blockSize : Nat} {positive : 0 < blockSize}
      {baseId checkpointId : String} {data base : Bytes}
      {baseChunks targetChunks : List Chunk} {later : CheckpointFiles}
      (puts : PutsDelta ⟨root, blockSize, positive⟩ depth state baseId
        checkpointId data base baseChunks targetChunks later) :
      Stores root depth state
        (.delta blockSize positive baseId checkpointId data) later

/-- A put succeeds, or leaves the store. -/
theorem ensures_checkpointStep (state : CheckpointFiles) (put : CheckpointPut) :
    Ensures (fun state => checkpointStep host root depth state put) state
      (fun _ later => Stores root depth state put later)
      (fun _ later => later = state) := by
  cases put with
  | base checkpointId data =>
      exact (ensures_putBase host state checkpointId data).mono
        (fun _ _ puts => .base puts) (fun _ _ same => same)
  | delta blockSize positive baseId checkpointId data =>
      apply (ensures_putDelta host ⟨root, blockSize, positive⟩ depth state
        baseId checkpointId data).mono
      · rintro _ later ⟨base, baseChunks, targetChunks, puts⟩
        exact .delta puts
      · exact fun _ _ same => same

theorem Stores.changes {state later : CheckpointFiles} {put : CheckpointPut}
    (stores : Stores root depth state put later) :
    Changes state put.id later := by
  cases stores with
  | base puts => exact puts.changes
  | delta puts => exact puts.changes

/-! ## Fresh ids -/

/-- The files and manifests are those of the given ids. -/
structure OwnedBy (ids : List String) (state : CheckpointFiles) : Prop where
  files : ∀ path data, state.files.lookup path = some data →
    ∃ checkpointId ∈ ids, FileOf checkpointId path
  manifests : ∀ checkpointId manifest,
    state.manifests.lookup checkpointId = some manifest → checkpointId ∈ ids

theorem Changes.ownedBy {state later : CheckpointFiles} {checkpointId : String}
    {ids : List String} (owned : OwnedBy ids state)
    (changes : Changes state checkpointId later) :
    OwnedBy (ids ++ [checkpointId]) later := by
  obtain ⟨manifest, manifests⟩ := changes.manifests
  constructor
  · intro path data found
    by_cases own : FileOf checkpointId path
    · exact ⟨checkpointId, by simp, own⟩
    · rw [changes.files path own] at found
      obtain ⟨other, member, foreign⟩ := owned.files path data found
      exact ⟨other, List.mem_append_left _ member, foreign⟩
  · intro other held found
    rw [manifests, Dict.lookup_insert] at found
    split at found
    · rename_i same
      simp [same]
    · exact List.mem_append_left _ (owned.manifests other held found)

/-- A put under a fresh id keeps every file and manifest. -/
theorem Changes.extends {state later : CheckpointFiles} {checkpointId : String}
    {ids : List String} (owned : OwnedBy ids state)
    (fresh : checkpointId ∉ ids)
    (changes : Changes state checkpointId later) : Extends state later := by
  obtain ⟨manifest, manifests⟩ := changes.manifests
  constructor
  · intro path data found
    rw [changes.files path, found]
    intro own
    obtain ⟨other, member, foreign⟩ := owned.files path data found
    rw [own.unique foreign] at fresh
    exact fresh member
  · intro other held found
    rw [manifests, Dict.lookup_insert_ne, found]
    rintro rfl
    exact fresh (owned.manifests _ held found)

/-- What a run of puts under distinct ids has stored so far. -/
structure Restores (root : List String)
    (history : List (Run.Visit CheckpointFiles CheckpointPut
      (Except PyException CheckpointManifest)))
    (state : CheckpointFiles) : Prop where
  owned : OwnedBy (history.map fun v => v.input.id) state
  stored : ∀ checkpointId manifest,
    state.manifests.lookup checkpointId = some manifest →
      ∃ v ∈ history, v.input.id = checkpointId ∧ v.output.isOk = true
  reads : ∀ v ∈ history, v.output.isOk = true →
    ∀ depth, history.length ≤ depth →
      read root state depth v.input.id = .ok v.input.data

theorem restores_empty : Restores root [] {} := by
  constructor
  · constructor
    · intro path data found
      cases found
    · intro checkpointId manifest found
      cases found
  · intro checkpointId manifest found
    cases found
  · intro v member
    cases member

/-- A read that succeeds names a manifest. -/
theorem manifest_of_read {state : CheckpointFiles} {depth : Nat}
    {checkpointId : String} {data : Bytes}
    (run : read root state depth checkpointId = .ok data) :
    ∃ manifest, state.manifests.lookup checkpointId = some manifest := by
  cases depth with
  | zero => cases run
  | succ depth =>
      simp only [CheckpointDeltaStore.read] at run
      obtain ⟨named, checked, body⟩ := except_bind_eq_ok_iff.mp run
      obtain ⟨rfl, -⟩ := validateIdentifier_eq_ok checked
      cases found : state.manifests.lookup named with
      | none =>
          rw [found] at body
          cases body
      | some manifest => exact ⟨manifest, rfl⟩

theorem Restores.step {history : List (Run.Visit CheckpointFiles CheckpointPut
      (Except PyException CheckpointManifest))}
    {state : CheckpointFiles} (restores : Restores root history state)
    {put : CheckpointPut}
    (fresh : put.id ∉ history.map fun v => v.input.id) :
    Restores root
      (history ++ [Run.visit (checkpointStep host root depth) state put])
      (checkpointStep host root depth state put).2 := by
  have ran := @ensures_checkpointStep host root depth state put
  cases run : checkpointStep host root depth state put with
  | mk result later =>
      have visit : Run.visit (checkpointStep host root depth) state put =
          ⟨state, put, result, later⟩ := by
        rw [Run.visit, run]
      rw [visit]
      cases result with
      | error error =>
          obtain rfl : later = state := ran.of_error run
          constructor
          · constructor
            · intro path data found
              obtain ⟨other, member, own⟩ := restores.owned.files path data found
              exact ⟨other, by
                rw [List.map_append]
                exact List.mem_append_left _ member, own⟩
            · intro other held found
              rw [List.map_append]
              exact List.mem_append_left _
                (restores.owned.manifests other held found)
          · intro other held found
            obtain ⟨v, member, named, ok⟩ := restores.stored other held found
            exact ⟨v, List.mem_append_left _ member, named, ok⟩
          · intro v member ok more enough
            rcases List.mem_append.mp member with old | new
            · rw [List.length_append, List.length_singleton] at enough
              exact restores.reads v old ok more (Nat.le_of_succ_le enough)
            · rw [List.mem_singleton.mp new] at ok
              cases ok
      | ok manifest =>
          have stores : Stores root depth state put later := ran.of_ok run
          have grows := stores.changes.extends restores.owned fresh
          constructor
          · rw [List.map_append]
            exact stores.changes.ownedBy restores.owned
          · intro other held found
            obtain ⟨new, manifests⟩ := stores.changes.manifests
            rw [manifests, Dict.lookup_insert] at found
            split at found
            · rename_i same
              exact ⟨_, List.mem_append_right _ List.mem_cons_self, same, rfl⟩
            · obtain ⟨v, member, named, ok⟩ := restores.stored other held found
              exact ⟨v, List.mem_append_left _ member, named, ok⟩
          · intro v member ok more enough
            rw [List.length_append, List.length_singleton] at enough
            rcases List.mem_append.mp member with old | new
            · exact grows.read (Nat.le_refl _)
                (restores.reads v old ok more (Nat.le_of_succ_le enough))
            · obtain ⟨more, rfl⟩ : ∃ k, more = k + 1 := ⟨more - 1, by omega⟩
              rw [List.mem_singleton.mp new]
              cases stores with
              | base puts => exact puts.reads root more
              | delta puts =>
                  apply puts.reads
                  obtain ⟨held, found⟩ := manifest_of_read puts.baseRead
                  obtain ⟨w, visited, named, stored⟩ :=
                    restores.stored _ held found
                  have now := restores.reads w visited stored
                  rw [named] at now
                  -- The base read alike with the stack of the put.
                  have deep := (Extends.refl state).read
                    (Nat.le_max_left _ history.length) puts.baseRead
                  rw [now _ (Nat.le_max_right _ _)] at deep
                  rw [← Except.ok.inj deep]
                  exact grows.read (Nat.le_refl _) (now more (by omega))

/-- In every run of puts under distinct ids, whatever was stored reads back,
however long its chain, as soon as the stack has room for all checkpoints. -/
theorem checkpoints_restored (host : Host) (root : List String) (depth : Nat)
    {puts : List CheckpointPut} (fresh : (puts.map CheckpointPut.id).Nodup) :
    ∀ v ∈ Run.visits (checkpointStep host root depth) {} puts,
      v.output.isOk = true → ∀ more, puts.length ≤ more →
        read root (Run.final (checkpointStep host root depth) {} puts) more
          v.input.id = .ok v.input.data := by
  let step := checkpointStep host root depth
  let holds := fun (history : List (Run.Visit CheckpointFiles CheckpointPut
      (Except PyException CheckpointManifest))) state =>
    (history.map fun v => v.input.id).Nodup → Restores root history state
  have start : holds [] {} := fun _ => restores_empty
  have kept : holds (Run.visits step {} puts) (Run.final step {} puts) := by
    apply Run.visits_history_induction start
    intro history state put before distinct
    rw [List.map_append, List.nodup_append] at distinct
    apply (before distinct.1).step
    intro old
    exact distinct.2.2 _ old _ List.mem_cons_self rfl
  have inputs : (Run.visits step {} puts).map (fun v => v.input.id) =
      puts.map CheckpointPut.id := by
    have inputs := congrArg (List.map CheckpointPut.id)
      (@Run.visits_input _ _ _ step {} puts)
    rw [List.map_map] at inputs
    exact inputs
  have restores := kept (by rw [inputs]; exact fresh)
  intro v member ok more enough
  have size : (Run.visits step {} puts).length = puts.length := by
    have sizes := congrArg List.length inputs
    simpa using sizes
  exact restores.reads v member ok more (by rw [size]; exact enough)

/-- Two deltas in a row with blocks of different sizes; the second one is
shorter than its base. -/
def chainedPuts : List CheckpointPut :=
  [.base "full" [1, 2, 3], .delta 2 (by decide) "full" "longer" [1, 2, 4, 5, 6],
    .delta 3 (by decide) "longer" "shorter" [1]]

theorem checkpoints_restored_chain :
    (Run.visits (checkpointStep .counting [] 1000) {} chainedPuts).length =
        chainedPuts.length ∧
      ∀ v ∈ Run.visits (checkpointStep .counting [] 1000) {} chainedPuts,
        v.output.isOk = true → ∀ more, 3 ≤ more →
          read [] (Run.final (checkpointStep .counting [] 1000) {} chainedPuts)
            more v.input.id = .ok v.input.data := by
  have fresh : (chainedPuts.map CheckpointPut.id).Nodup := by decide
  exact ⟨rfl, checkpoints_restored .counting [] 1000 fresh⟩

end CheckpointDeltaStore

end Urp
