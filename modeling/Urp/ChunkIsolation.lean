import Urp.ChunkRuns

/-!
# Isolation of dedupe domains

Which entries a run of puts can leave in the index, and when puts for
different tenants or namespaces stay apart: the text that is hashed for a
domain joins the two strings with a NUL, which either may contain.
-/

namespace Urp

open Python LocalChunkStore

/-! ## The index over a run -/

theorem indexed_run (host : Host) (puts : List Put) :
    Indexed puts (Run.final (putStep host) {} puts) := by
  apply Run.history_induction
  · intro key row found
    simp at found
  · intro early put state indexed
    have kept : Indexed (early ++ [put]) state :=
      indexed.mono fun earlier member => List.mem_append_left _ member
    apply Program.ensures_state_iff.mp
    apply (ensures_put host state put).mono
    · rintro stored later
        (⟨existing, data, -, -, rfl, -⟩ | ⟨-, rfl, rfl⟩)
      · exact kept
      · exact kept.store (by simp)
    · rintro _ _ ⟨rfl, -⟩
      exact kept

/-! ## Isolation of domains -/

/-- After the puts `early`, the run's next put returned this row. -/
def Returned (host : Host) (puts early : List Put) (put : Put)
    (stored : StoredChunk) : Prop :=
  (∃ late, puts = early ++ put :: late) ∧
    (putStep host (Run.final (putStep host) {} early) put).1 = .ok stored

/-- Puts for different pairs share no index entry and no file, and a hit only
repeats an earlier put of the same pair and bytes. -/
structure Isolated (host : Host) (puts : List Put) : Prop where
  entries : ∀ put ∈ puts, ∀ other ∈ puts, put.pair ≠ other.pair →
    put.key ≠ other.key ∧ put.path ≠ other.path
  refs : ∀ {early before put other stored kept},
    Returned host puts early put stored → Returned host puts before other kept →
      put.pair ≠ other.pair → stored.ref ≠ kept.ref
  hits : ∀ {early put stored}, Returned host puts early put stored →
    stored.dedupeHit = true →
      ∃ earlier ∈ early, earlier.pair = put.pair ∧ earlier.data = put.data

section Isolation

variable {host : Host} {puts early : List Put} {put : Put}
variable {stored : StoredChunk}

theorem Returned.mem (returned : Returned host puts early put stored) :
    put ∈ puts ∧ ∀ earlier ∈ early, earlier ∈ puts := by
  obtain ⟨⟨late, rfl⟩, -⟩ := returned
  exact ⟨by simp, fun earlier member => List.mem_append_left _ member⟩

/-- A returned row names the file of its put, and a hit has the key of an
earlier put. -/
theorem Returned.row (collisionFree : CollisionFree puts)
    (returned : Returned host puts early put stored) :
    stored.ref = put.ref ∧
      (stored.dedupeHit = true → ∃ earlier ∈ early, put.key = earlier.key) := by
  have members := returned.mem
  have indexed := indexed_run host early
  have outcome := ensures_put host (Run.final (putStep host) {} early) put
  rcases outcome.of_fst_ok returned.2 with
    ⟨existing, data, found, rfl, -, -⟩ | ⟨-, rfl, -⟩
  · obtain ⟨earlier, member, key, ref⟩ := indexed put.key existing found
    have same := collisionFree.of_key members.1 (members.2 earlier member) key
    exact ⟨ref.trans same.1.symm, fun _ => ⟨earlier, member, key⟩⟩
  · refine ⟨rfl, fun hit => ?_⟩
    cases hit

/-- Puts stay apart exactly when no two of different pairs have the same bytes
and the same joined text. -/
theorem isolated_iff (host : Host) (collisionFree : CollisionFree puts) :
    Isolated host puts ↔
      ∀ put ∈ puts, ∀ other ∈ puts, put.data = other.data →
        put.domainText = other.domainText → put.pair = other.pair := by
  constructor
  · intro isolated put member other otherMember sameData sameText
    by_contra different
    have keys := (isolated.entries put member other otherMember different).1
    apply keys
    have digests : put.chunk.sha256 = other.chunk.sha256 := by
      rw [put.chunk.digested, other.chunk.digested]
      exact congrArg _ sameData
    have texts : put.keyText = other.keyText := by
      rw [Put.keyText_eq, Put.keyText_eq, sameText, digests]
    exact Put.key_of_keyText texts
  · intro apart
    have sharesFile : ∀ put ∈ puts, ∀ other ∈ puts,
        put.path = other.path → put.pair = other.pair := by
      intro put member other otherMember path
      have same := collisionFree.of_path member otherMember path
      exact apart put member other otherMember same.2.2 same.1
    have sharesKey : ∀ put ∈ puts, ∀ other ∈ puts, put.key = other.key →
        put.pair = other.pair ∧ put.data = other.data := by
      intro put member other otherMember key
      have same := collisionFree.of_key member otherMember key
      exact ⟨apart put member other otherMember same.2.2 same.2.1, same.2.2⟩
    constructor
    · intro put member other otherMember different
      constructor
      · exact fun key =>
          different (sharesKey put member other otherMember key).1
      · exact fun path =>
          different (sharesFile put member other otherMember path)
    · intro early before put other stored kept returned otherReturned
        different same
      have refs := (returned.row collisionFree).1.symm.trans
        (same.trans (otherReturned.row collisionFree).1)
      exact different (sharesFile put returned.mem.1 other
        otherReturned.mem.1 (Put.path_of_ref refs))
    · intro early put stored returned hit
      obtain ⟨earlier, member, key⟩ := (returned.row collisionFree).2 hit
      have members := returned.mem
      have shared := sharesKey put members.1 earlier
        (members.2 earlier member) key
      exact ⟨earlier, member, shared.1.symm, shared.2.symm⟩

end Isolation

/-- Two pairs whose joins are the same text. -/
def clashingPuts : List Put :=
  [⟨"a\x00b", "c", .ofData 0 [104, 105], false⟩,
    ⟨"a", "b\x00c", .ofData 0 [104, 105], false⟩]

theorem clashingPuts_keyText : ∀ put ∈ clashingPuts, ∀ other ∈ clashingPuts,
    put.data = other.data ∧ put.domainText = other.domainText ∧
      put.keyText = other.keyText := by
  intro put member other otherMember
  have data : ∀ put ∈ clashingPuts, put.data = [104, 105] := by decide
  have text : ∀ put ∈ clashingPuts,
      put.domainText = "a\x00b\x00c".toList := by decide
  have digests : put.chunk.sha256 = other.chunk.sha256 := by
    rw [put.chunk.digested, other.chunk.digested]
    exact congrArg _ ((data put member).trans (data other otherMember).symm)
  have texts := (text put member).trans (text other otherMember).symm
  refine ⟨(data put member).trans (data other otherMember).symm, texts, ?_⟩
  rw [Put.keyText_eq, Put.keyText_eq, texts, digests]

/-- The second put, for another tenant and namespace, hits the entry of the
first. -/
theorem clashingPuts_not_isolated :
    CollisionFree clashingPuts ∧
      (∃ early put stored,
        Returned Host.counting clashingPuts early put stored ∧
          stored.dedupeHit = true ∧
            ∀ earlier ∈ early, earlier.pair ≠ put.pair) ∧
      ¬ Isolated Host.counting clashingPuts := by
  have same := clashingPuts_keyText
  have collisionFree : CollisionFree clashingPuts :=
    ⟨fun put member other otherMember _ =>
        (same put member other otherMember).1,
      fun put member other otherMember _ =>
        (same put member other otherMember).2.2,
      fun put member other otherMember _ =>
        (same put member other otherMember).2.1⟩
  refine ⟨collisionFree, ?_, ?_⟩
  · let first : Put := ⟨"a\x00b", "c", .ofData 0 [104, 105], false⟩
    let second : Put := ⟨"a", "b\x00c", .ofData 0 [104, 105], false⟩
    have text := (same second (by simp [clashingPuts, second]) first
      (by simp [clashingPuts, first])).2.2
    have stores : putStep Host.counting {} first =
        (.ok (first.newRow Host.counting),
          ChunkFiles.store Host.counting {} first) :=
      run_of_absent Host.counting rfl
    have decodes := decodes_newRow Host.counting_codecs {} first
    have hits : putStep Host.counting
        (ChunkFiles.store Host.counting {} first) second =
          (.ok (second.reused (first.newRow Host.counting)),
            ChunkFiles.store Host.counting {} first) := by
      apply run_of_decodes
      · rw [(Put.path_of_keyText text).1]
        exact Dict.lookup_insert_self _ _ _
      · rw [Put.key_of_keyText text]
        exact Dict.lookup_insert_self _ _ _
      · exact decodes
    refine ⟨[first], second, second.reused (first.newRow Host.counting),
      ⟨⟨[], rfl⟩, ?_⟩, rfl, by decide⟩
    simp only [Run.final, stores, hits]
  · intro isolated
    have head : _ ∈ clashingPuts := List.mem_cons_self
    have next : _ ∈ clashingPuts :=
      List.mem_cons_of_mem _ List.mem_cons_self
    have keys := (isolated.entries _ head _ next (by decide)).1
    exact keys (Put.key_of_keyText (same _ head _ next).2.2)

/-- Two tenants with the same bytes. -/
def tenantPuts : List Put :=
  [⟨"acme", "default", .ofData 0 [104, 105], false⟩,
    ⟨"initech", "default", .ofData 0 [104, 105], false⟩]

theorem tenantPuts_isolated : Isolated Host.counting tenantPuts := by
  have collisionFree : CollisionFree tenantPuts := by
    constructor
    · have sameData : ∀ put ∈ tenantPuts, ∀ other ∈ tenantPuts,
          put.data = other.data := by decide
      exact fun put member other otherMember _ =>
        sameData put member other otherMember
    · decide +kernel
    · decide +kernel
  apply (isolated_iff Host.counting collisionFree).mpr
  decide

end Urp
