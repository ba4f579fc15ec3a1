import Mathlib.Data.List.Infix
import Urp.Chunking

/-!
# Where the chunkers cut

The chunks lie one after another and keep their sizes.  A cut depends on the
bytes since the cut before it alone, so that more data at the end changes only
the last chunk, and the data behind a cut is chunked on its own.
-/

namespace Urp

open Python

/-! ## Chunks one after another -/

/-- The first chunk begins at `base`, and each where the one before ends. -/
def Chunk.Adjacent : Nat → List Chunk → Prop
  | _, [] => True
  | base, chunk :: rest =>
      chunk.offset = base ∧ Chunk.Adjacent (base + chunk.data.length) rest

theorem adjacent_contentDefinedLoop
    (minSize avgBits maxSize start rolling : Nat) (part data : Bytes) :
    Chunk.Adjacent start
      (contentDefinedLoop minSize avgBits maxSize start rolling part data) := by
  induction data generalizing start rolling part with
  | nil =>
      unfold contentDefinedLoop
      split
      · trivial
      · exact ⟨rfl, trivial⟩
  | cons b rest ih =>
      simp only [contentDefinedLoop]
      split
      · exact ⟨rfl, ih _ _ _⟩
      · exact ih _ _ _

theorem adjacent_fixedLoop (size fuel start : Nat) (data : Bytes) :
    Chunk.Adjacent start (fixedLoop size fuel start data) := by
  induction fuel generalizing start data with
  | zero => trivial
  | succ fuel ih =>
      unfold fixedLoop
      split
      · trivial
      · refine ⟨rfl, ?_⟩
        rcases Nat.le_total size data.length with whole | last
        · have length : (data.take size).length = size := by
            rw [List.length_take, Nat.min_eq_left whole]
          rw [Chunk.data_ofData, length]
          exact ih _ _
        · -- The last chunk is shorter than the others.
          rw [List.drop_eq_nil_of_le last]
          cases fuel <;> trivial

/-! ## Sizes -/

/-- The chunks put together are the data, lie one after another from 0 with
the digests of their bytes, and have these sizes. -/
structure Chunk.Partition (inner last : Nat → Prop) (data : Bytes)
    (chunks : List Chunk) : Prop where
  joined : Chunk.joined chunks = data
  adjacent : Chunk.Adjacent 0 chunks
  digested : ∀ chunk ∈ chunks, chunk.sha256 = Python.sha256 chunk.data
  inner : ∀ chunk ∈ chunks.dropLast, inner chunk.data.length
  last : ∀ chunk ∈ chunks.getLast?, last chunk.data.length

section Lists

variable {α : Type} {holds : α → Prop} {first : α} {rest : List α}

theorem forall_dropLast_cons (head : holds first)
    (tail : ∀ item ∈ rest.dropLast, holds item) :
    ∀ item ∈ (first :: rest).dropLast, holds item := by
  cases rest with
  | nil =>
      intro item none
      cases none
  | cons next rest =>
      intro item member
      rcases List.mem_cons.mp member with rfl | later
      · exact head
      · exact tail item later

theorem forall_getLast?_cons (head : holds first)
    (tail : ∀ item ∈ rest.getLast?, holds item) :
    ∀ item ∈ (first :: rest).getLast?, holds item := by
  cases rest with
  | nil =>
      intro item member
      cases member
      exact head
  | cons next rest =>
      rw [List.getLast?_cons_cons]
      exact tail

end Lists

/-- The part that is read stays shorter than a chunk may be. -/
theorem sizes_contentDefinedLoop {minSize avgBits maxSize : Nat}
    (positive : 0 < minSize) (order : minSize ≤ maxSize)
    (start rolling : Nat) (part data : Bytes)
    (short : part.length < maxSize) :
    let chunks :=
      contentDefinedLoop minSize avgBits maxSize start rolling part data
    (∀ chunk ∈ chunks.dropLast,
        minSize ≤ chunk.data.length ∧ chunk.data.length ≤ maxSize) ∧
      ∀ chunk ∈ chunks.getLast?,
        1 ≤ chunk.data.length ∧ chunk.data.length ≤ maxSize := by
  induction data generalizing start rolling part with
  | nil =>
      simp only [contentDefinedLoop]
      cases part with
      | nil => simp
      | cons byte part =>
          simp only [List.length_cons] at short
          simp
          omega
  | cons byte rest ih =>
      simp only [contentDefinedLoop]
      have grown : (part ++ [byte]).length = part.length + 1 := by simp
      split
      · rename_i cut
        obtain ⟨inner, last⟩ := ih (start + (part ++ [byte]).length) 0 []
          (Nat.lt_of_lt_of_le positive order)
        constructor
        · apply forall_dropLast_cons _ inner
          rw [Chunk.data_ofData]
          omega
        · apply forall_getLast?_cons _ last
          rw [Chunk.data_ofData]
          omega
      · rename_i uncut
        apply ih
        by_contra long
        exact uncut ⟨by omega, Or.inr (by omega)⟩

theorem sizes_fixedLoop {size : Nat} (positive : 0 < size)
    (fuel start : Nat) (data : Bytes) (enough : data.length ≤ fuel) :
    let chunks := fixedLoop size fuel start data
    (∀ chunk ∈ chunks.dropLast, chunk.data.length = size) ∧
      ∀ chunk ∈ chunks.getLast?,
        1 ≤ chunk.data.length ∧ chunk.data.length ≤ size := by
  induction fuel generalizing start data with
  | zero => simp [fixedLoop]
  | succ fuel ih =>
      simp only [fixedLoop]
      split
      · simp
      · rename_i nonempty
        have filled : 0 < data.length := by
          rw [List.length_pos_iff]
          simpa using nonempty
        have shorter : (data.drop size).length ≤ fuel := by
          rw [List.length_drop]
          omega
        obtain ⟨inner, last⟩ := ih (start + size) (data.drop size) shorter
        constructor
        · by_cases whole : size ≤ data.length
          · apply forall_dropLast_cons _ inner
            rw [Chunk.data_ofData, List.length_take]
            omega
          · -- Nothing is left behind a shorter chunk.
            have gone : data.drop size = [] :=
              List.drop_eq_nil_of_le (by omega)
            rw [gone]
            cases fuel <;> simp [fixedLoop]
        · apply forall_getLast?_cons _ last
          rw [Chunk.data_ofData, List.length_take]
          omega

/-- Both chunkers partition their input within their bounds. -/
theorem chunkers_partition (data : Bytes) :
    (∀ minSize avgBits maxSize chunks,
      contentDefinedChunks data minSize avgBits maxSize = .ok chunks →
        Chunk.Partition (fun size => minSize ≤ size ∧ size ≤ maxSize)
          (fun size => 1 ≤ size ∧ size ≤ maxSize) data chunks) ∧
    ∀ size chunks, fixedChunks data size = .ok chunks →
      Chunk.Partition (· = size) (fun last => 1 ≤ last ∧ last ≤ size) data
        chunks := by
  constructor
  · intro minSize avgBits maxSize chunks cut
    have joined := joined_contentDefinedChunks cut
    unfold contentDefinedChunks at cut
    split at cut
    · cases cut
      exact ⟨joined, trivial, by simp, by simp, by simp⟩
    · split at cut
      · cases cut
      · rename_i valid
        cases cut
        obtain ⟨inner, last⟩ := @sizes_contentDefinedLoop minSize avgBits
          maxSize (by omega) (by omega) 0 0 [] data (by simp; omega)
        exact ⟨joined, adjacent_contentDefinedLoop _ _ _ _ _ _ _,
          fun chunk _ => chunk.digested, inner, last⟩
  · intro size chunks cut
    have joined := joined_fixedChunks cut
    unfold fixedChunks at cut
    split at cut
    · cases cut
    · rename_i valid
      cases cut
      obtain ⟨inner, last⟩ := sizes_fixedLoop (Nat.pos_of_ne_zero valid)
        data.length 0 data (Nat.le_refl _)
      exact ⟨joined, adjacent_fixedLoop _ _ _ _,
        fun chunk _ => chunk.digested, inner, last⟩

/-- Equal bytes, cut at the smallest size. -/
theorem chunkers_partition_sample :
    ∃ chunks, contentDefinedChunks (List.replicate 36 7) 8 3 32 = .ok chunks ∧
      Chunk.Partition (fun size => 8 ≤ size ∧ size ≤ 32)
        (fun size => 1 ≤ size ∧ size ≤ 32) (List.replicate 36 7) chunks :=
  ⟨_, rfl, (chunkers_partition _).1 8 3 32 _ rfl⟩

/-! ## Locality -/

/-- The chunk, `distance` bytes further on. -/
def Chunk.shift (distance : Nat) (chunk : Chunk) : Chunk :=
  { chunk with offset := distance + chunk.offset }

/-- Where a chunk begins or ends. -/
def Chunk.boundaries (chunks : List Chunk) : List Nat :=
  0 :: chunks.map Chunk.stop

section Locality

variable {minSize avgBits maxSize : Nat}

/-- More data can change the last chunk alone. -/
theorem dropLast_contentDefinedLoop (start rolling : Nat)
    (part data more : Bytes) :
    (contentDefinedLoop minSize avgBits maxSize start rolling part
        data).dropLast <+:
      contentDefinedLoop minSize avgBits maxSize start rolling part
        (data ++ more) := by
  induction data generalizing start rolling part with
  | nil =>
      have single : (contentDefinedLoop minSize avgBits maxSize start rolling
          part []).dropLast = [] := by
        simp only [contentDefinedLoop]
        split <;> rfl
      rw [single]
      exact List.nil_prefix
  | cons byte rest ih =>
      simp only [List.cons_append, contentDefinedLoop]
      split
      · have later := ih (start + (part ++ [byte]).length) 0 []
        cases tail : contentDefinedLoop minSize avgBits maxSize
            (start + (part ++ [byte]).length) 0 [] rest with
        | nil => exact List.nil_prefix
        | cons next others =>
            rw [tail] at later
            rw [List.dropLast_cons_of_ne_nil (List.cons_ne_nil _ _)]
            exact (List.prefix_cons_inj _).mpr later
      · exact ih _ _ _

/-- The loop knows the position by the offsets alone. -/
theorem contentDefinedLoop_shift (distance start rolling : Nat)
    (part data : Bytes) :
    contentDefinedLoop minSize avgBits maxSize (distance + start) rolling part
        data =
      (contentDefinedLoop minSize avgBits maxSize start rolling part data).map
        (Chunk.shift distance) := by
  induction data generalizing start rolling part with
  | nil =>
      simp only [contentDefinedLoop]
      split <;> rfl
  | cons byte rest ih =>
      simp only [contentDefinedLoop]
      split
      · rw [List.map_cons, Nat.add_assoc, ih]
        rfl
      · exact ih _ _ _

/-- Behind a first chunk the loop starts anew. -/
theorem contentDefinedLoop_first {start rolling : Nat} {part data : Bytes}
    {chunk : Chunk} {others : List Chunk}
    (cut : contentDefinedLoop minSize avgBits maxSize start rolling part data =
      chunk :: others) :
    ∃ used rest, data = used ++ rest ∧ chunk.data = part ++ used ∧
      chunk.offset = start ∧
      others = contentDefinedLoop minSize avgBits maxSize
        (start + chunk.data.length) 0 [] rest := by
  induction data generalizing start rolling part with
  | nil =>
      simp only [contentDefinedLoop] at cut
      split at cut
      · cases cut
      · cases cut
        exact ⟨[], [], rfl, (List.append_nil _).symm, rfl, rfl⟩
  | cons byte rest ih =>
      simp only [contentDefinedLoop] at cut
      split at cut
      · cases cut
        exact ⟨[byte], rest, rfl, rfl, rfl, rfl⟩
      · obtain ⟨used, after, rfl, bytes, offset, later⟩ := ih cut
        refine ⟨byte :: used, after, rfl, ?_, offset, later⟩
        rw [bytes, List.append_assoc, List.singleton_append]

/-- The loop starts anew behind every cut. -/
theorem contentDefinedLoop_split {start : Nat} {data : Bytes}
    {early late : List Chunk}
    (cut : contentDefinedLoop minSize avgBits maxSize start 0 [] data =
      early ++ late) :
    late = contentDefinedLoop minSize avgBits maxSize
      (start + (Chunk.joined early).length) 0 []
        (data.drop (Chunk.joined early).length) := by
  induction early generalizing start data with
  | nil => exact cut.symm
  | cons chunk early ih =>
      obtain ⟨used, rest, rfl, bytes, -, later⟩ := contentDefinedLoop_first cut
      rw [List.nil_append] at bytes
      have behind := ih later.symm
      rw [Chunk.joined_cons, List.length_append, ← Nat.add_assoc, ← bytes,
        List.drop_append, List.drop_eq_nil_of_le (by omega), List.nil_append,
        Nat.add_sub_cancel_left]
      exact behind

theorem le_start_of_adjacent {base : Nat} {chunks : List Chunk}
    (adjacent : Chunk.Adjacent base chunks) :
    ∀ chunk ∈ chunks, base ≤ chunk.start := by
  induction chunks generalizing base with
  | nil => intro chunk none; cases none
  | cons first rest ih =>
      obtain ⟨offset, behind⟩ := adjacent
      intro chunk member
      rcases List.mem_cons.mp member with rfl | later
      · exact offset.ge
      · have further := ih behind chunk later
        omega

/-- A boundary splits the chunks into those before and those behind it. -/
theorem split_of_boundary {base boundary : Nat} {chunks : List Chunk}
    (adjacent : Chunk.Adjacent base chunks)
    (member : boundary = base ∨ boundary ∈ chunks.map Chunk.stop) :
    ∃ early late, chunks = early ++ late ∧
      boundary = base + (Chunk.joined early).length ∧
      (∀ chunk ∈ early, chunk.stop ≤ boundary) ∧
      ∀ chunk ∈ late, boundary ≤ chunk.start := by
  by_cases first : boundary = base
  · subst first
    exact ⟨[], chunks, rfl, rfl, by simp, le_start_of_adjacent adjacent⟩
  · have stops := member.resolve_left first
    induction chunks generalizing base with
    | nil => cases stops
    | cons chunk rest ih =>
        obtain ⟨offset, behind⟩ := adjacent
        have stop : chunk.stop = base + chunk.data.length :=
          congrArg (· + chunk.data.length) offset
        by_cases own : boundary = chunk.stop
        · refine ⟨[chunk], rest, rfl, ?_, ?_, ?_⟩
          · rw [own, stop]
            simp
          · intro other only
            rw [List.mem_singleton.mp only, own]
          · rw [own, stop]
            exact le_start_of_adjacent behind
        · have later : boundary ∈ rest.map Chunk.stop := by
            rw [List.map_cons, List.mem_cons] at stops
            exact stops.resolve_left own
          obtain ⟨early, late, rfl, sum, before, after⟩ :=
            ih behind (Or.inr later) (stop ▸ own) later
          refine ⟨chunk :: early, late, rfl, ?_, ?_, after⟩
          · rw [sum, Chunk.joined_cons, List.length_append, Nat.add_assoc]
          · intro other listed
            rcases List.mem_cons.mp listed with rfl | inEarly
            · rw [stop]
              omega
            · exact before other inEarly

end Locality

/-- More data keeps all chunks but the last, and the data behind a boundary is
cut into the remaining chunks. -/
theorem chunks_local (minSize avgBits maxSize : Nat) :
    (∀ data more chunks whole,
      contentDefinedChunks data minSize avgBits maxSize = .ok chunks →
        contentDefinedChunks (data ++ more) minSize avgBits maxSize =
            .ok whole →
          chunks.dropLast <+: whole) ∧
    ∀ data chunks,
      contentDefinedChunks data minSize avgBits maxSize = .ok chunks →
        ∀ boundary ∈ Chunk.boundaries chunks, ∃ early late rest,
          chunks = early ++ late ∧
            (∀ chunk ∈ early, chunk.stop ≤ boundary) ∧
            (∀ chunk ∈ late, boundary ≤ chunk.start) ∧
            contentDefinedChunks (data.drop boundary) minSize avgBits maxSize =
              .ok rest ∧
            late = rest.map (Chunk.shift boundary) := by
  constructor
  · intro data more chunks whole cut cutWhole
    unfold contentDefinedChunks at cut
    split at cut
    · cases cut
      exact List.nil_prefix
    · rename_i nonempty
      split at cut
      · cases cut
      · rename_i valid
        cases cut
        have more_nonempty : ¬ (data ++ more).isEmpty = true := by
          cases data with
          | nil => exact absurd rfl nonempty
          | cons byte data => simp
        unfold contentDefinedChunks at cutWhole
        rw [if_neg more_nonempty, if_neg valid] at cutWhole
        cases cutWhole
        exact dropLast_contentDefinedLoop 0 0 [] data more
  · intro data chunks cut boundary member
    unfold contentDefinedChunks at cut
    split at cut
    · rename_i empty
      cases cut
      obtain rfl : boundary = 0 := by simpa [Chunk.boundaries] using member
      rw [List.isEmpty_iff.mp empty]
      exact ⟨[], [], [], rfl, by simp, by simp, rfl, rfl⟩
    · split at cut
      · cases cut
      · rename_i valid
        cases cut
        obtain ⟨early, late, pieces, sum, before, after⟩ :=
          split_of_boundary (adjacent_contentDefinedLoop minSize avgBits
            maxSize 0 0 [] data) (List.mem_cons.mp member)
        rw [Nat.zero_add] at sum
        have remaining := contentDefinedLoop_split pieces
        rw [← sum, Nat.zero_add] at remaining
        refine ⟨early, late, contentDefinedLoop minSize avgBits maxSize 0 0 []
          (data.drop boundary), pieces, before, after, ?_, ?_⟩
        · unfold contentDefinedChunks
          split
          · rename_i empty
            rw [List.isEmpty_iff.mp empty]
            rfl
          · rfl
        · rw [remaining]
          exact contentDefinedLoop_shift boundary 0 0 [] _

theorem chunks_local_sample :
    ∃ chunks whole,
      contentDefinedChunks (List.replicate 36 7) 8 3 32 = .ok chunks ∧
        contentDefinedChunks (List.replicate 36 7 ++ [1, 2]) 8 3 32 =
            .ok whole ∧
          chunks.dropLast <+: whole :=
  ⟨_, _, rfl, rfl, (chunks_local 8 3 32).1 (List.replicate 36 7) [1, 2] _ _ rfl rfl⟩

end Urp
