import Urp.Errors

/-!
# Chunking

The two chunkers.  A chunk carries the proof that its digest is the digest of
its bytes.  Whatever the parameters, the bytes of the chunks put together are
the data again.
-/

namespace Urp

open Python

structure Chunk where
  offset : Nat
  data : Bytes
  sha256 : String
  digested : sha256 = Python.sha256 data

namespace Chunk

/-- The chunk of these bytes. -/
def ofData (offset : Nat) (data : Bytes) : Chunk where
  offset := offset
  data := data
  sha256 := Python.sha256 data
  digested := rfl

def start (chunk : Chunk) : Nat := chunk.offset

def stop (chunk : Chunk) : Nat := chunk.offset + chunk.data.length

/-- The bytes of all chunks in order. -/
def joined (chunks : List Chunk) : Bytes := chunks.flatMap data

@[simp] theorem joined_nil : joined [] = [] := rfl

@[simp] theorem joined_cons (chunk : Chunk) (rest : List Chunk) :
    joined (chunk :: rest) = chunk.data ++ joined rest := rfl

@[simp] theorem data_ofData (offset : Nat) (data : Bytes) :
    (ofData offset data).data = data := rfl

end Chunk

/-- The loop of `content_defined_chunks`; `part` is the data from `start` to
the next byte. -/
def contentDefinedLoop (minSize avgBits maxSize start rolling : Nat)
    (part : Bytes) : Bytes → List Chunk
  | [] => if part.isEmpty then [] else [.ofData start part]
  | b :: rest =>
      let rolling := (2 * rolling + b.toNat + 0x9E3779B1) % 2 ^ 32
      let part := part ++ [b]
      if minSize ≤ part.length ∧
          (rolling % 2 ^ avgBits = 0 ∨ maxSize ≤ part.length) then
        .ofData start part ::
          contentDefinedLoop minSize avgBits maxSize (start + part.length) 0 []
            rest
      else contentDefinedLoop minSize avgBits maxSize start rolling part rest

def contentDefinedChunks (data : Bytes) (minSize avgBits maxSize : Nat) :
    Except PyException (List Chunk) :=
  if data.isEmpty then .ok []
  else if minSize = 0 ∨ maxSize < minSize then
    .error (.valueError "invalid chunk sizes")
  else .ok (contentDefinedLoop minSize avgBits maxSize 0 0 [] data)

/-- The slices of `range(start, len(data), size)`, at most `fuel` of them. -/
def fixedLoop (size : Nat) : Nat → Nat → Bytes → List Chunk
  | 0, _, _ => []
  | fuel + 1, start, data =>
      if data.isEmpty then []
      else
        .ofData start (data.take size) ::
          fixedLoop size fuel (start + size) (data.drop size)

def fixedChunks (data : Bytes) (size : Nat) :
    Except PyException (List Chunk) :=
  if size = 0 then .error (.valueError "chunk size must be positive")
  else .ok (fixedLoop size data.length 0 data)

/-! ## Chunks put together -/

theorem joined_contentDefinedLoop
    (minSize avgBits maxSize start rolling : Nat) (part data : Bytes) :
    Chunk.joined
        (contentDefinedLoop minSize avgBits maxSize start rolling part data) =
      part ++ data := by
  induction data generalizing start rolling part with
  | nil =>
      cases part with
      | nil => rfl
      | cons b rest => simp [contentDefinedLoop]
  | cons b rest ih =>
      simp only [contentDefinedLoop]
      split
      · rw [Chunk.joined_cons, ih]
        simp
      · rw [ih]
        simp

theorem joined_contentDefinedChunks {data : Bytes}
    {minSize avgBits maxSize : Nat} {chunks : List Chunk}
    (cut : contentDefinedChunks data minSize avgBits maxSize = .ok chunks) :
    Chunk.joined chunks = data := by
  unfold contentDefinedChunks at cut
  split at cut
  · rename_i empty
    cases cut
    rw [List.isEmpty_iff.mp empty]
    rfl
  · split at cut
    · cases cut
    · cases cut
      exact joined_contentDefinedLoop minSize avgBits maxSize 0 0 [] data

theorem joined_fixedLoop {size fuel : Nat} (start : Nat) {data : Bytes}
    (positive : 0 < size) (enough : data.length ≤ fuel) :
    Chunk.joined (fixedLoop size fuel start data) = data := by
  induction fuel generalizing start data with
  | zero =>
      have empty : data = [] := List.length_eq_zero_iff.mp (by omega)
      rw [empty]
      rfl
  | succ fuel ih =>
      unfold fixedLoop
      split
      · rename_i empty
        rw [List.isEmpty_iff.mp empty]
        rfl
      · rename_i nonempty
        have shorter : (data.drop size).length ≤ fuel := by
          rw [List.length_drop]
          omega
        rw [Chunk.joined_cons, ih (start + size) shorter]
        simp

theorem joined_fixedChunks {data : Bytes} {size : Nat} {chunks : List Chunk}
    (cut : fixedChunks data size = .ok chunks) :
    Chunk.joined chunks = data := by
  unfold fixedChunks at cut
  split at cut
  · cases cut
  · rename_i positive
    cases cut
    exact joined_fixedLoop 0 (Nat.pos_of_ne_zero positive) (Nat.le_refl _)

end Urp
