import Mathlib.Data.List.Perm.Subperm
import Urp.StateFiles

/-!
# Backups of every run

The directory that a run of writes leaves is restored from its backup, with
all that the stores read from it, if the archive is within the limits of the
import.  A directory of a million files is exported, but its archive is
refused.
-/

namespace Urp

open Python

/-- A ledger line, a checkpoint and a lock file. -/
def sampleWrites : List StateWrite :=
  [.store .ledger [123, 125, 10],
    .lock ["checkpoints", ".checkpoint.lock"] rfl,
    .store (.checkpointBase ⟨"cp_1", rfl⟩) [1, 2]]

/-- The blocks of a checkpoint delta, of one byte each. -/
def blockWrites (count : Nat) : List StateWrite :=
  (List.range count).map fun index =>
    .store (.checkpointBlock ⟨"cp_2", rfl⟩ index) [0]

/-- A new file comes last. -/
theorem paths_stateStep_new {directory : StateDirectory} {write : StateWrite}
    (fits : directory.fits write.path = true)
    (absent : write.path ∉ directory.paths) :
    (stateStep directory write).2.paths = directory.paths ++ [write.path] := by
  unfold stateStep StateDirectory.write
  rw [dif_pos fits]
  have entries := Entries.insert_of_not_mem write.data absent
  change (Entries.insert directory.files.entries _ _).map Prod.fst = _
  rw [entries, List.map_append]
  rfl

theorem paths_blockWrites (count : Nat) :
    (Run.final stateStep ∅ (blockWrites count)).paths =
      (List.range count).map fun index =>
        ["checkpoints", CheckpointDeltaStore.blockName "cp_2" index] := by
  induction count with
  | zero => rfl
  | succ count ih =>
      let directory := Run.final stateStep ∅ (blockWrites count)
      let path : StatePath :=
        ["checkpoints", CheckpointDeltaStore.blockName "cp_2" count]
      have others : ∀ other ∈ directory.paths, ∃ index < count, other =
          ["checkpoints", CheckpointDeltaStore.blockName "cp_2" index] := by
        intro other member
        rw [ih] at member
        obtain ⟨index, inRange, rfl⟩ := List.mem_map.mp member
        exact ⟨index, List.mem_range.mp inRange, rfl⟩
      have fits : directory.fits path = true := by
        obtain ⟨isName, plain⟩ := @CheckpointDeltaStore.isPlainName_blockName
          "cp_2" rfl count
        have name := isFileName_iff.mpr ⟨isName, plain⟩
        refine StateDirectory.fits_iff.mpr ⟨?_, ?_⟩
        · have folder : isFileName "checkpoints" = true := by
            decide
          simp [isFilePath, path, name, folder]
        · intro other member near
          obtain ⟨index, -, rfl⟩ := others other member
          rcases near with below | above
          · exact below.eq_of_length rfl
          · exact (above.eq_of_length rfl).symm
      have absent : path ∉ directory.paths := by
        intro member
        obtain ⟨index, below, same⟩ := others path member
        have names := (List.cons.inj (List.cons.inj same).2).1
        have indices := (CheckpointDeltaStore.blockName_inj names).2
        omega
      rw [blockWrites, List.range_succ, List.map_append, Run.final_append]
      change (stateStep directory _).2.paths = _
      rw [paths_stateStep_new fits absent, List.map_append]
      exact congrArg (· ++ [path]) ih

theorem length_names_blockWrites (count : Nat) (generatedAt : String) :
    count < (exportState none generatedAt
      (Run.final stateStep ∅ (blockWrites count)) none).names.length := by
  let directory := Run.final stateStep ∅ (blockWrites count)
  have listed : directory.paths ⊆ stateFiles directory.paths none := by
    intro path member
    have stored := stored_run (blockWrites count)
    refine (stored.mem_stateFiles_iff (by simp)).mpr ⟨member, ?_⟩
    rw [paths_blockWrites] at member
    obtain ⟨index, -, rfl⟩ := List.mem_map.mp member
    exact ⟨⟨"checkpoints", by decide, rfl⟩,
      (StoreFile.checkpointBlock ⟨"cp_2", rfl⟩ index).not_isLockFile⟩
  have enough := (List.subperm_of_subset directory.nodup_paths listed).length_le
  have size : directory.paths.length = count := by
    rw [paths_blockWrites, List.length_map, List.length_range]
  have entries : (exportState none generatedAt directory none).names.length =
      (stateFiles directory.paths none).length + 1 := by
    simp [BackupArchive.names, exportState, finishArchive]
  change count < (exportState none generatedAt directory none).names.length
  omega

end Urp
