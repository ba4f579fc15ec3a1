import Mathlib.Data.List.Induction
import Urp.Library.Dict

/-!
# The last item of each kind

The items of a list are told apart by a key; the last item of a key stands
for all of them.
-/

namespace Latest

variable {α β γ : Type} {key : α → β} {items : List α} {item last : α}

/-- No later item has the key of the item. -/
def LastBy (key : α → β) (items : List α) (item : α) : Prop :=
  ∃ early late, items = early ++ item :: late ∧
    ∀ other ∈ late, key other ≠ key item

theorem LastBy.mem (is : LastBy key items item) : item ∈ items := by
  obtain ⟨early, late, rfl, -⟩ := is
  simp

theorem not_lastBy_nil : ¬ LastBy key [] item := by
  rintro ⟨early, late, split, -⟩
  cases early <;> cases split

/-- A new item is the last of its key, and of the other keys nothing changes. -/
theorem lastBy_append_singleton_iff :
    LastBy key (items ++ [last]) item ↔
      item = last ∨ key last ≠ key item ∧ LastBy key items item := by
  constructor
  · rintro ⟨early, late, split, after⟩
    rcases List.eq_nil_or_concat late with rfl | ⟨others, final, rfl⟩
    · obtain ⟨-, same⟩ := List.append_inj' split rfl
      cases same
      exact .inl rfl
    · rw [List.concat_eq_append, ← List.cons_append, ← List.append_assoc]
        at split
      obtain ⟨rfl, same⟩ := List.append_inj' split rfl
      cases same
      refine .inr ⟨after last (by simp), early, others, rfl, ?_⟩
      intro other member
      exact after other (by simp [member])
  · rintro (rfl | ⟨apart, early, late, rfl, after⟩)
    · exact ⟨items, [], rfl, by simp⟩
    · refine ⟨early, late ++ [last], by simp, ?_⟩
      rw [List.forall_mem_append, List.forall_mem_singleton]
      exact ⟨after, apart⟩

/-- Every item has a last one of its key. -/
theorem exists_lastBy (member : item ∈ items) :
    ∃ last, LastBy key items last ∧ key last = key item := by
  induction items using List.reverseRecOn with
  | nil => cases member
  | append_singleton early final ih =>
      by_cases same : key final = key item
      · exact ⟨final, lastBy_append_singleton_iff.mpr (.inl rfl), same⟩
      · rcases List.mem_append.mp member with earlier | new
        · obtain ⟨last, is, equal⟩ := ih earlier
          refine ⟨last, lastBy_append_singleton_iff.mpr (.inr ⟨?_, is⟩), equal⟩
          rw [equal]
          exact same
        · rw [List.mem_singleton.mp new] at same
          exact absurd rfl same

/-- The last item of a key is also the last of a finer key. -/
theorem LastBy.finer {fine : α → γ} (is : LastBy key items item)
    (refines : ∀ one two, fine one = fine two → key one = key two) :
    LastBy fine items item := by
  obtain ⟨early, late, split, after⟩ := is
  exact ⟨early, late, split, fun other member same =>
    after other member (refines other item same)⟩

/-- Two items that are each the last of the other's key are one. -/
theorem LastBy.meet {other : α} {fine : α → γ} (is : LastBy key items item)
    (alsoIs : LastBy fine items other) (same : key other = key item)
    (alsoSame : fine item = fine other) : item = other := by
  obtain ⟨early, late, split, after⟩ := is
  obtain ⟨start, rest, resplit, later⟩ := alsoIs
  rw [split] at resplit
  rcases List.append_eq_append_iff.mp resplit with
    ⟨between, -, tail⟩ | ⟨between, -, tail⟩
  · cases between with
    | nil => exact (List.cons.inj tail).1
    | cons first others =>
        have member : other ∈ late := by
          rw [(List.cons.inj tail).2]
          simp
        exact absurd same (after other member)
  · cases between with
    | nil => exact (List.cons.inj tail).1.symm
    | cons first others =>
        have member : item ∈ rest := by
          rw [(List.cons.inj tail).2]
          simp
        exact absurd alsoSame (later item member)

/-- A filter leaves out what is not the last of its key. -/
theorem LastBy.filter {keep : α → Bool} (is : LastBy key items item)
    (kept : keep item = true) : LastBy key (items.filter keep) item := by
  obtain ⟨early, late, rfl, after⟩ := is
  refine ⟨early.filter keep, late.filter keep, by simp [kept], ?_⟩
  intro other member
  exact after other (List.mem_of_mem_filter member)

/-! ## Tables of the last items -/

variable {κ : Type} [DecidableEq κ] {dict : Dict κ β} {index : α → κ}
  {value : α → β}

/-- The dictionary holds the value of the last item of every key. -/
def Tabulates (dict : Dict κ β) (index : α → κ) (value : α → β)
    (items : List α) : Prop :=
  ∀ key found, dict.lookup key = some found ↔
    ∃ item, LastBy index items item ∧ index item = key ∧ value item = found

theorem tabulates_empty (index : α → κ) (value : α → β) :
    Tabulates ∅ index value [] := by
  intro key found
  constructor
  · intro held
    cases held
  · intro ⟨item, is, _⟩
    exact absurd is not_lastBy_nil

/-- An insertion follows an appended item. -/
theorem Tabulates.insert (tabulates : Tabulates dict index value items)
    (last : α) :
    Tabulates (dict.insert (index last) (value last)) index value
      (items ++ [last]) := by
  intro key found
  rw [Dict.lookup_insert]
  by_cases same : index last = key
  · subst same
    constructor
    · intro held
      refine ⟨last, lastBy_append_singleton_iff.mpr (.inl rfl), rfl, ?_⟩
      simpa using held
    · rintro ⟨item, is, indexed, rfl⟩
      rcases lastBy_append_singleton_iff.mp is with rfl | ⟨apart, -⟩
      · simp
      · exact absurd indexed.symm apart
  · rw [if_neg same, tabulates key found]
    constructor
    · intro ⟨item, is, indexed, given⟩
      refine ⟨item, lastBy_append_singleton_iff.mpr (.inr ⟨?_, is⟩), indexed,
        given⟩
      rw [indexed]
      exact same
    · intro ⟨item, is, indexed, given⟩
      rcases lastBy_append_singleton_iff.mp is with rfl | ⟨-, before⟩
      · exact absurd indexed same
      · exact ⟨item, before, indexed, given⟩

end Latest
