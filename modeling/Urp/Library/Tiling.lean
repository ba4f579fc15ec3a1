import Mathlib.Algebra.Order.BigOperators.Ring.Finset
import Mathlib.Data.Int.ConditionallyCompleteOrder
import Mathlib.Data.Int.Interval
import Mathlib.Order.ConditionallyCompleteLattice.Basic

/-!
# Tilings of an integer interval

Items with a start and a stop, in order of their starts.  Their widths inside
an interval add up to the number of covers of its points, so that items that
cover no point twice and have the interval's width cover each point once.  The
parts of such items, put together, lie where the items lie.
-/

namespace Tiling

variable {α β : Type} (start stop : α → ℤ)

def Covers (item : α) (point : ℤ) : Prop :=
  start item ≤ point ∧ point < stop item

instance (item : α) (point : ℤ) : Decidable (Covers start stop item point) :=
  inferInstanceAs (Decidable (_ ∧ _))

/-- The items that cover a point. -/
def covering (items : List α) (point : ℤ) : List α :=
  items.filter fun item => Covers start stop item point

/-- How much of an item lies between `lo` and `hi`. -/
def width (lo hi : ℤ) (item : α) : ℕ :=
  (min hi (stop item) - max lo (start item)).toNat

variable {start stop} {lo hi : ℤ}

theorem covering_cons (item : α) (rest : List α) (point : ℤ) :
    covering start stop (item :: rest) point =
      if Covers start stop item point then
        item :: covering start stop rest point
      else covering start stop rest point := by
  simp only [covering, List.filter_cons, decide_eq_true_eq]

theorem card_covered (item : α) :
    ((Finset.Ico lo hi).filter fun point => Covers start stop item point).card =
      width start stop lo hi item := by
  have same : (Finset.Ico lo hi).filter
      (fun point => Covers start stop item point) =
        Finset.Ico (max lo (start item)) (min hi (stop item)) := by
    ext point
    rw [Finset.mem_filter, Finset.mem_Ico, Finset.mem_Ico, max_le_iff,
      lt_min_iff, Covers]
    tauto
  rw [same, Int.card_Ico, width]

/-- The widths count each point as often as it is covered. -/
theorem sum_width (items : List α) :
    (items.map (width start stop lo hi)).sum =
      ∑ point ∈ Finset.Ico lo hi, (covering start stop items point).length := by
  induction items with
  | nil => simp [covering]
  | cons item rest ih =>
      rw [List.map_cons, List.sum_cons, ih, ← card_covered, Finset.card_filter,
        ← Finset.sum_add_distrib]
      apply Finset.sum_congr rfl
      intro point _
      rw [covering_cons]
      split
      · rw [List.length_cons, Nat.add_comm]
      · rw [Nat.zero_add]

/-- Items that cover no point twice and fill the interval cover each once. -/
theorem covered_once {items : List α}
    (sum : (items.map (width start stop lo hi)).sum = (hi - lo).toNat)
    (atMost : ∀ point, lo ≤ point → point < hi →
      (covering start stop items point).length ≤ 1) :
    ∀ point, lo ≤ point → point < hi →
      (covering start stop items point).length = 1 := by
  have each : ∀ point ∈ Finset.Ico lo hi,
      (covering start stop items point).length ≤ 1 := by
    intro point member
    obtain ⟨lower, upper⟩ := Finset.mem_Ico.mp member
    exact atMost point lower upper
  have total : ∑ point ∈ Finset.Ico lo hi,
      (covering start stop items point).length =
        ∑ point ∈ Finset.Ico lo hi, 1 := by
    rw [← sum_width, sum, Finset.sum_const, Int.card_Ico]
    exact (Nat.mul_one _).symm
  intro point lower upper
  exact (Finset.sum_eq_sum_iff_of_le each).mp total point
    (Finset.mem_Ico.mpr ⟨lower, upper⟩)

/-- The point at `point` of the parts put together is the point of the part
whose item covers it. -/
theorem getElem?_flatten {items : List α} {parts : List (List β)}
    (aligned : List.Forall₂
      (fun item part => part.length = width start stop lo hi item) items parts)
    (ordered : items.Pairwise fun p q => start p ≤ start q) {base : ℤ}
    (inside : lo ≤ base)
    (before : ∀ point, lo ≤ point → point < base → point < hi →
      covering start stop items point = [])
    (once : ∀ point, base ≤ point → point < hi →
      (covering start stop items point).length = 1)
    {point : ℤ} (lower : base ≤ point) (upper : point < hi) :
    ∃ pair ∈ items.zip parts, Covers start stop pair.1 point ∧
      parts.flatten[(point - base).toNat]? =
        pair.2[(point - max lo (start pair.1)).toNat]? := by
  induction aligned generalizing base with
  | nil =>
      have none := once point lower upper
      cases none
  | @cons item part rest others length aligned ih =>
      obtain ⟨first, tail⟩ := List.pairwise_cons.mp ordered
      by_cases empty : min hi (stop item) ≤ max lo (start item)
      · -- The item has no point inside, and its part is empty.
        have none : part = [] := by
          apply List.eq_nil_of_length_eq_zero
          rw [length, width]
          omega
        have skipped : ∀ point, lo ≤ point → point < hi →
            covering start stop (item :: rest) point =
              covering start stop rest point := by
          intro point above below
          rw [covering_cons, if_neg]
          rintro ⟨begun, unfinished⟩
          omega
        obtain ⟨pair, member, covers, same⟩ := ih tail inside
          (fun point above below inner =>
            (skipped point above inner).symm.trans
              (before point above below inner))
          (fun point above inner => by
            rw [← skipped point (le_trans inside above) inner]
            exact once point above inner) lower
        refine ⟨pair, List.mem_cons_of_mem _ member, covers, ?_⟩
        rw [none]
        exact same
      · have covers : ∀ point, max lo (start item) ≤ point →
            point < min hi (stop item) → Covers start stop item point := by
          intro point begun unfinished
          exact ⟨by omega, by omega⟩
        have reached : base ≤ max lo (start item) := by
          by_contra early
          have missing := before _ (le_max_left _ _) (not_le.mp early) (by omega)
          rw [covering_cons, if_pos (covers _ le_rfl (not_le.mp empty))]
            at missing
          cases missing
        have begins : max lo (start item) = base := by
          by_contra late
          -- Another item would cover the base, and begin after it.
          have single := once base le_rfl (by omega)
          rw [covering_cons, if_neg] at single
          · obtain ⟨other, held⟩ := List.length_eq_one_iff.mp single
            have member : other ∈ covering start stop rest base := by
              rw [held]
              exact List.mem_singleton_self other
            obtain ⟨member, covered⟩ := List.mem_filter.mp member
            obtain ⟨begun, -⟩ := of_decide_eq_true covered
            have after := first other member
            omega
          · rintro ⟨begun, -⟩
            omega
        by_cases within : point < min hi (stop item)
        · refine ⟨(item, part), List.mem_cons_self,
            covers point (by omega) within, ?_⟩
          rw [List.flatten_cons, begins, List.getElem?_append_left]
          rw [length, width]
          omega
        · have onlyHere : ∀ point, lo ≤ point → point < min hi (stop item) →
              point < hi → covering start stop rest point = [] := by
            intro point above below inner
            by_cases early : point < base
            · have missing := before point above early inner
              rw [covering_cons] at missing
              split at missing
              · cases missing
              · exact missing
            · have single := once point (not_lt.mp early) inner
              rw [covering_cons, if_pos (covers point (by omega) below)]
                at single
              exact List.eq_nil_of_length_eq_zero (Nat.succ.inj single)
          have onlyThere : ∀ point, min hi (stop item) ≤ point → point < hi →
              (covering start stop rest point).length = 1 := by
            intro point above inner
            have single := once point (by omega) inner
            rw [covering_cons, if_neg] at single
            · exact single
            · rintro ⟨-, unfinished⟩
              omega
          obtain ⟨pair, member, covered, same⟩ := ih tail (by omega) onlyHere
            onlyThere (not_lt.mp within)
          refine ⟨pair, List.mem_cons_of_mem _ member, covered, ?_⟩
          rw [← same, List.flatten_cons, List.getElem?_append_right, length,
            width]
          · congr 1
            omega
          · rw [length, width]
            omega

end Tiling
