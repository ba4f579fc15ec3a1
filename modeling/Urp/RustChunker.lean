import Urp.Chunking
import Urp.Library.Slices

/-!
# The Rust chunker

`content_defined_chunks` of the `urp-chunker` crate, which counts positions
and rolls its hash in wrapping 32-bit words.  It cuts where the Python chunker
cuts.
-/

namespace Urp

open Python Slices

namespace Rust

structure Chunk where
  start : Nat
  stop : Nat
  data : Bytes

/-- One step of the rolling hash. -/
def roll (rolling : UInt32) (byte : UInt8) : UInt32 :=
  rolling <<< 1 + byte.toUInt32 + 0x9E3779B1

/-- The loop over `data.iter().enumerate()`, at position `i` with the bytes
`rest` to come. -/
def contentDefinedLoop (data : Bytes) (minSize : Nat) (mask : UInt32)
    (maxSize start : Nat) (rolling : UInt32) (i : Nat) : Bytes → List Chunk
  | [] =>
      if start < data.length then
        [{ start, stop := data.length, data := data.drop start }]
      else []
  | byte :: rest =>
      let rolling := roll rolling byte
      let size := i - start + 1
      if minSize ≤ size ∧ (rolling &&& mask = 0 ∨ maxSize ≤ size) then
        { start, stop := i + 1, data := slice start (i + 1) data } ::
          contentDefinedLoop data minSize mask maxSize (i + 1) 0 (i + 1) rest
      else
        contentDefinedLoop data minSize mask maxSize start rolling (i + 1) rest

/-- An error is the message of the assertion that panics. -/
def contentDefinedChunks (data : Bytes) (minSize : Nat) (avgBits : UInt32)
    (maxSize : Nat) : Except String (List Chunk) :=
  if data.isEmpty then .ok []
  else if minSize = 0 then .error "min_size must be positive"
  else if maxSize < minSize then .error "max_size must be >= min_size"
  else
    let mask := (1 : UInt32) <<< avgBits - 1
    .ok (contentDefinedLoop data minSize mask maxSize 0 0 0 data)

end Rust

/-! ## The same cuts -/

/-- A chunk as the crate gives it. -/
def Chunk.toRust (chunk : Chunk) : Rust.Chunk where
  start := chunk.start
  stop := chunk.stop
  data := chunk.data

theorem toNat_roll (rolling : UInt32) (byte : UInt8) :
    (Rust.roll rolling byte).toNat =
      (2 * rolling.toNat + byte.toNat + 0x9E3779B1) % 2 ^ 32 := by
  simp [Rust.roll, Nat.shiftLeft_eq]
  omega

/-- The mask keeps the low bits. -/
theorem and_mask_eq_zero_iff {avgBits : Nat} (bits : avgBits ≤ 31)
    (rolling : UInt32) :
    rolling &&& ((1 : UInt32) <<< UInt32.ofNat avgBits - 1) = 0 ↔
      rolling.toNat % 2 ^ avgBits = 0 := by
  have small : 2 ^ avgBits < 2 ^ 32 := Nat.pow_lt_pow_right (by omega) (by omega)
  have positive : 0 < 2 ^ avgBits := Nat.two_pow_pos avgBits
  have shifted : ((1 : UInt32) <<< UInt32.ofNat avgBits).toNat =
      2 ^ avgBits := by
    rw [UInt32.toNat_shiftLeft, UInt32.toNat_ofNat',
      Nat.mod_eq_of_lt (by omega : avgBits < 2 ^ 32),
      Nat.mod_eq_of_lt (by omega : avgBits < 32), Nat.shiftLeft_eq]
    exact (congrArg (· % 2 ^ 32) (Nat.one_mul _)).trans
      (Nat.mod_eq_of_lt small)
  have mask : ((1 : UInt32) <<< UInt32.ofNat avgBits - 1).toNat =
      2 ^ avgBits - 1 := by
    rw [UInt32.toNat_sub_of_le, shifted]
    · rfl
    · rw [UInt32.le_iff_toNat_le, shifted]
      exact positive
  rw [← UInt32.toNat_inj, UInt32.toNat_and, mask,
    Nat.and_two_pow_sub_one_eq_mod]
  rfl

/-- The invariant of the two loops: the same hash, and the part read since the
last cut. -/
theorem contentDefinedLoop_toRust {minSize avgBits maxSize : Nat}
    (bits : avgBits ≤ 31) (before part rest : Bytes) (rolling : UInt32) :
    Rust.contentDefinedLoop (before ++ part ++ rest) minSize
        ((1 : UInt32) <<< UInt32.ofNat avgBits - 1) maxSize before.length
        rolling (before.length + part.length) rest =
      (contentDefinedLoop minSize avgBits maxSize before.length rolling.toNat
        part rest).map Chunk.toRust := by
  induction rest generalizing before part rolling with
  | nil =>
      rw [List.append_nil, Rust.contentDefinedLoop, contentDefinedLoop]
      cases part with
      | nil => simp
      | cons byte part =>
          have rest : before.length < (before ++ byte :: part).length := by
            simp
          rw [if_pos rest, List.drop_left]
          simp [Chunk.toRust, Chunk.ofData, Chunk.start, Chunk.stop]
  | cons byte rest ih =>
      have data : before ++ part ++ byte :: rest =
          before ++ (part ++ [byte]) ++ rest := by simp
      have size : before.length + part.length - before.length + 1 =
          (part ++ [byte]).length := by
        rw [List.length_append, List.length_singleton]
        omega
      have next : before.length + part.length + 1 =
          before.length + (part ++ [byte]).length := by
        rw [List.length_append, List.length_singleton, Nat.add_assoc]
      simp only [Rust.contentDefinedLoop, contentDefinedLoop, size, next, data,
        and_mask_eq_zero_iff bits, toNat_roll]
      split
      · -- The next chunk begins behind this one.
        have cut := ih (before ++ (part ++ [byte])) [] 0
        rw [List.append_nil, @List.length_append _ before, List.length_nil,
          Nat.add_zero] at cut
        have piece : slice before.length
            (before.length + (part ++ [byte]).length)
            (before ++ (part ++ [byte]) ++ rest) = part ++ [byte] := by
          rw [slice, ← List.length_append, List.take_left, List.drop_left]
        rw [List.map_cons, piece, cut]
        rfl
      · have grown := ih before (part ++ [byte]) (Rust.roll rolling byte)
        rw [toNat_roll] at grown
        exact grown

theorem chunkers_agree (data : Bytes) {minSize avgBits maxSize : Nat}
    (positive : 1 ≤ minSize) (order : minSize ≤ maxSize)
    (bits : avgBits ≤ 31) :
    ∃ chunks,
      contentDefinedChunks data minSize avgBits maxSize = .ok chunks ∧
        Rust.contentDefinedChunks data minSize (.ofNat avgBits) maxSize =
          .ok (chunks.map Chunk.toRust) := by
  unfold contentDefinedChunks Rust.contentDefinedChunks
  by_cases empty : data.isEmpty
  · exact ⟨[], by simp [empty]⟩
  · have invalid : ¬ (minSize = 0 ∨ maxSize < minSize) := by omega
    rw [if_neg empty, if_neg invalid, if_neg empty, if_neg (by omega),
      if_neg (by omega)]
    exact ⟨_, rfl, congrArg Except.ok
      (contentDefinedLoop_toRust bits [] [] data 0)⟩

/-- Equal bytes, cut at the smallest size. -/
theorem chunkers_agree_sample :
    ∃ chunks,
      contentDefinedChunks (List.replicate 36 7) 8 3 32 = .ok chunks ∧
        Rust.contentDefinedChunks (List.replicate 36 7) 8 (.ofNat 3) 32 =
          .ok (chunks.map Chunk.toRust) :=
  chunkers_agree (List.replicate 36 7) (by decide) (by decide) (by decide)

end Urp
