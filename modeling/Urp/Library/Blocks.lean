import Mathlib.Data.List.Basic

/-!
# Blocks of a list

`cut size count xs` are the first `count` blocks of a list.  Where the list
ends early, blocks are short or empty.  The blocks of a target at some indices
can be laid over those of a base; the target comes out exactly if the base
agrees with it everywhere else.
-/

namespace Blocks

variable {α β : Type}

def cut (size : Nat) : Nat → List α → List (List α)
  | 0, _ => []
  | count + 1, xs => xs.take size :: cut size count (xs.drop size)

theorem length_cut (size count : Nat) (xs : List α) :
    (cut size count xs).length = count := by
  induction count generalizing xs with
  | zero => rfl
  | succ count ih => rw [cut, List.length_cons, ih]

theorem cut_nil (size count : Nat) :
    cut size count ([] : List α) = List.replicate count [] := by
  induction count with
  | zero => rfl
  | succ count ih => simp [cut, ih, List.replicate_succ]

theorem cut_add (size early late : Nat) (xs : List α) :
    cut size (early + late) xs =
      cut size early xs ++ cut size late (xs.drop (early * size)) := by
  induction early generalizing xs with
  | zero => simp [cut]
  | succ early ih =>
      rw [Nat.succ_add_eq_add_succ, Nat.add_succ, cut, ih, cut, List.drop_drop,
        Nat.succ_mul, Nat.add_comm size]
      rfl

theorem flatten_cut {size count : Nat} {xs : List α}
    (covered : xs.length ≤ count * size) : (cut size count xs).flatten = xs := by
  induction count generalizing xs with
  | zero =>
      rw [Nat.zero_mul, Nat.le_zero] at covered
      rw [List.eq_nil_of_length_eq_zero covered]
      rfl
  | succ count ih =>
      rw [Nat.succ_mul] at covered
      have later : (xs.drop size).length ≤ count * size := by
        rw [List.length_drop]
        omega
      rw [cut, List.flatten_cons, ih later, List.take_append_drop]

theorem getElem?_cut {size count block : Nat} (inside : block < count)
    (xs : List α) :
    (cut size count xs)[block]? = some ((xs.drop (block * size)).take size) := by
  induction count generalizing block xs with
  | zero => exact absurd inside (Nat.not_lt_zero block)
  | succ count ih =>
      cases block with
      | zero => simp [cut]
      | succ block =>
          rw [cut, List.getElem?_cons_succ, ih (Nat.lt_of_succ_lt_succ inside),
            List.drop_drop, Nat.succ_mul, Nat.add_comm size]

/-- Lists with the same block agree on its positions. -/
theorem getElem?_of_cut {size many count i : Nat} {xs ys : List α}
    (positive : 0 < size) (inside : i / size < count)
    (same : (cut size many xs)[i / size]? = (cut size count ys)[i / size]?) :
    xs[i]? = ys[i]? := by
  rw [getElem?_cut inside] at same
  have held : i / size < many := by
    have bound := (List.getElem?_eq_some_iff.mp same).1
    rwa [length_cut] at bound
  rw [getElem?_cut held] at same
  have entries := congrArg (fun block => block[i % size]?) (Option.some.inj same)
  have below := Nat.mod_lt i positive
  have position : i / size * size + i % size = i := Nat.div_add_mod' i size
  simpa [List.getElem?_take_of_lt below, position] using entries

/-- The list has exactly this many blocks. -/
structure Fills (size count : Nat) (xs : List α) : Prop where
  covered : xs.length ≤ count * size
  needed : ∀ k < count, k * size < xs.length

theorem Fills.drop {size count : Nat} {xs : List α}
    (fills : Fills size (count + 1) xs) : Fills size count (xs.drop size) := by
  have covered := fills.covered
  rw [Nat.succ_mul] at covered
  constructor
  · rw [List.length_drop]
    omega
  · intro k below
    have needed := fills.needed (k + 1) (Nat.succ_lt_succ below)
    rw [Nat.succ_mul] at needed
    rw [List.length_drop]
    omega

theorem Fills.of_drop {size count : Nat} {xs : List α} (nonempty : xs ≠ [])
    (fills : Fills size count (xs.drop size)) : Fills size (count + 1) xs := by
  have covered := fills.covered
  rw [List.length_drop] at covered
  constructor
  · rw [Nat.succ_mul]
    omega
  · intro k below
    cases k with
    | zero => simpa using List.length_pos_of_ne_nil nonempty
    | succ k =>
        have needed := fills.needed k (Nat.lt_of_succ_lt_succ below)
        rw [List.length_drop] at needed
        rw [Nat.succ_mul]
        omega

/-- The target's entries at the chosen indices, elsewhere those of the base. -/
def overlay (chosen : Nat → Bool) : Nat → List β → List β → List β
  | start, target :: targets, base :: bases =>
      (if chosen start then target else base) ::
        overlay chosen (start + 1) targets bases
  | _, _, _ => []

/-- Entries of the base past the target are not looked at. -/
theorem overlay_append (chosen : Nat → Bool) {start : Nat}
    {targets bases : List β} (more : List β)
    (room : targets.length ≤ bases.length) :
    overlay chosen start targets (bases ++ more) =
      overlay chosen start targets bases := by
  induction targets generalizing start bases with
  | nil => simp [overlay]
  | cons target targets ih =>
      cases bases with
      | nil => simp at room
      | cons base bases =>
          rw [List.cons_append, overlay, overlay,
            ih (Nat.le_of_succ_le_succ room)]

theorem length_overlay_cut_nil (chosen : Nat → Bool) (size start count : Nat)
    (target : List α) :
    (overlay chosen start (cut size count target)
      (cut size count [])).flatten.length ≤ target.length := by
  induction count generalizing start target with
  | zero => exact Nat.zero_le _
  | succ count ih =>
      have rest := ih (start + 1) (target.drop size)
      rw [List.length_drop] at rest
      have first : (if chosen start then target.take size else
          ([] : List α).take size).length ≤ min size target.length := by
        split <;> simp
      simp only [cut, overlay, List.flatten_cons, List.length_append,
        List.drop_nil]
      omega

theorem take_eq_iff {count : Nat} {xs ys : List α} :
    xs.take count = ys.take count ↔ ∀ i < count, xs[i]? = ys[i]? := by
  constructor
  · intro same i below
    have entries := congrArg (fun zs => zs[i]?) same
    simpa [List.getElem?_take_of_lt below] using entries
  · intro same
    apply List.ext_getElem?
    intro i
    by_cases below : i < count
    · rw [List.getElem?_take_of_lt below, List.getElem?_take_of_lt below,
        same i below]
    · rw [List.getElem?_take_eq_none (Nat.le_of_not_lt below),
        List.getElem?_take_eq_none (Nat.le_of_not_lt below)]

/-- Positions of a list, those of its first block and the later ones apart. -/
theorem forall_position_iff {size length : Nat} (positive : 0 < size)
    {holds : Nat → Nat → Prop} :
    (∀ i < length, holds (i / size) i) ↔
      (∀ i < min size length, holds 0 i) ∧
        ∀ i < length - size, holds (i / size + 1) (size + i) := by
  constructor
  · intro all
    refine ⟨fun i below => ?_, fun i below => ?_⟩
    · have here := all i (by omega)
      rwa [Nat.div_eq_of_lt (by omega)] at here
    · have here := all (size + i) (by omega)
      rwa [Nat.add_div_left i positive] at here
  · rintro ⟨first, later⟩ i below
    by_cases inside : i < size
    · rw [Nat.div_eq_of_lt inside]
      exact first i (by omega)
    · have here := later (i - size) (by omega)
      rw [← Nat.add_div_left _ positive] at here
      rwa [Nat.add_sub_cancel' (Nat.le_of_not_lt inside)] at here

/-- A first block that is long enough is compared on its own. -/
theorem take_append_eq_iff {size : Nat} {first rest target : List α}
    (enough : min size target.length ≤ first.length)
    (short : first.length ≤ size) :
    (first ++ rest).take target.length = target ↔
      first.take (min size target.length) =
          target.take (min size target.length) ∧
        rest.take (target.length - size) = target.drop size := by
  have left : first.take target.length =
      first.take (min size target.length) := by
    rw [List.take_eq_take_iff]
    omega
  have right : target.take size = target.take (min size target.length) := by
    rw [List.take_eq_take_iff]
    omega
  have remaining : target.length - first.length = target.length - size := by
    omega
  rw [List.take_append, left, remaining, ← right]
  constructor
  · intro same
    have lengths : (first.take (min size target.length)).length =
        (target.take size).length := by
      rw [List.length_take, List.length_take]
      omega
    apply List.append_inj _ lengths
    rw [List.take_append_drop]
    exact same
  · rintro ⟨one, two⟩
    rw [one, two, List.take_append_drop]

/-- Laying the chosen blocks of a target over a base gives the target exactly
if the base has its entries outside of the chosen blocks. -/
theorem take_overlay_eq_iff {size count start : Nat} (positive : 0 < size)
    (chosen : Nat → Bool) {target base : List α}
    (fills : Fills size count target) :
    ((overlay chosen start (cut size count target)
        (cut size count base)).flatten ++ base.drop (count * size)).take
          target.length = target ↔
      ∀ i < target.length, chosen (start + i / size) = false →
        base[i]? = target[i]? := by
  induction count generalizing start target base with
  | zero =>
      have empty : target = [] := by
        apply List.eq_nil_of_length_eq_zero
        have covered := fills.covered
        omega
      subst empty
      simp
  | succ count ih =>
      have later := @ih (start + 1) (target.drop size) (base.drop size) fills.drop
      rw [List.drop_drop, List.length_drop, Nat.add_comm size] at later
      have split := @forall_position_iff size target.length positive
        fun block i => chosen (start + block) = false → base[i]? = target[i]?
      rw [split]
      have tail : (∀ i < target.length - size,
          chosen (start + (i / size + 1)) = false →
            base[size + i]? = target[size + i]?) ↔
          ∀ i < target.length - size, chosen (start + 1 + i / size) = false →
            (base.drop size)[i]? = (target.drop size)[i]? := by
        simp only [List.getElem?_drop, Nat.add_comm, Nat.add_left_comm]
      rw [tail, ← later]
      have whole : (overlay chosen start (cut size (count + 1) target)
            (cut size (count + 1) base)).flatten ++
              base.drop ((count + 1) * size) =
          (if chosen start then target.take size else base.take size) ++
            ((overlay chosen (start + 1) (cut size count (target.drop size))
              (cut size count (base.drop size))).flatten ++
                base.drop (count * size + size)) := by
        rw [cut, cut, overlay, List.flatten_cons, List.append_assoc,
          Nat.succ_mul]
      rw [whole]
      by_cases taken : chosen start = true
      · have enough : min size target.length ≤ (target.take size).length :=
          Nat.le_of_eq List.length_take.symm
        have same : (target.take size).take (min size target.length) =
            target.take (min size target.length) := by
          rw [List.take_take, Nat.min_eq_left (Nat.min_le_left _ _)]
        rw [if_pos taken, take_append_eq_iff enough (List.length_take_le _ _)]
        simp [taken, same]
      · rw [if_neg taken]
        rw [Bool.not_eq_true] at taken
        by_cases enough : min size target.length ≤ base.length
        · have first : min size target.length ≤ (base.take size).length := by
            rw [List.length_take]
            omega
          rw [take_append_eq_iff first (List.length_take_le _ _),
            List.take_take, Nat.min_eq_left (Nat.min_le_left _ _),
            take_eq_iff]
          simp [taken]
        · rw [Nat.not_le] at enough
          -- The base ends within its first block.
          have ended : base.drop size = [] := by
            rw [List.drop_eq_nil_iff]
            omega
          have past : base.drop (count * size + size) = [] := by
            rw [List.drop_eq_nil_iff]
            omega
          have bound := length_overlay_cut_nil chosen size (start + 1) count
            (target.drop size)
          rw [List.length_drop] at bound
          apply iff_of_false
          · intro same
            have lengths := congrArg List.length same
            rw [ended, past] at lengths
            simp only [List.length_take, List.length_append, List.length_nil]
              at lengths
            omega
          · rintro ⟨agrees, -⟩
            have here := agrees base.length enough taken
            rw [List.getElem?_eq_none (Nat.le_refl _), eq_comm,
              List.getElem?_eq_none_iff] at here
            omega

end Blocks
