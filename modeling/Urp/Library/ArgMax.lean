import Mathlib.Order.Lattice

/-!
# The best item of a list

A scan that keeps the first item of the highest score among those whose score
reaches a threshold.
-/

namespace ArgMax

variable {α β : Type} [LinearOrder β] (score : α → β) (threshold : β)

/-- The better of the best so far and the next item. -/
def keepBetter (best : Option α) (item : α) : Option α :=
  if threshold ≤ score item ∧
      (best.all fun other => decide (score other < score item)) then
    some item
  else best

/-- The best of the items, if one reaches the threshold. -/
def IsBest (items : List α) : Option α → Prop
  | none => ∀ item ∈ items, score item < threshold
  | some best => best ∈ items ∧ threshold ≤ score best ∧
      ∀ item ∈ items, score item ≤ score best

variable {score threshold}

theorem isBest_keepBetter {seen : List α} {best : Option α}
    (chosen : IsBest score threshold seen best) (item : α) :
    IsBest score threshold (seen ++ [item])
      (keepBetter score threshold best item) := by
  have split : ∀ {other}, other ∈ seen ++ [item] → other ∈ seen ∨ other = item :=
    fun member => (List.mem_append.mp member).imp_right List.mem_singleton.mp
  have last : item ∈ seen ++ [item] :=
    List.mem_append_right _ (List.mem_singleton_self item)
  unfold keepBetter
  split
  · rename_i wins
    obtain ⟨reached, ahead⟩ := wins
    refine ⟨last, reached, fun other member => ?_⟩
    rcases split member with before | rfl
    · cases best with
      | none => exact le_of_lt (lt_of_lt_of_le (chosen other before) reached)
      | some best =>
          have above : score best < score item := of_decide_eq_true ahead
          exact le_trans (chosen.2.2 other before) (le_of_lt above)
    · exact le_rfl
  · rename_i loses
    cases best with
    | none =>
        intro other member
        rcases split member with before | rfl
        · exact chosen other before
        · exact not_le.mp fun reached => loses ⟨reached, rfl⟩
    | some best =>
        obtain ⟨member, reached, highest⟩ := chosen
        refine ⟨List.mem_append_left _ member, reached, fun other member => ?_⟩
        rcases split member with before | rfl
        · exact highest other before
        · by_contra above
          have ahead := not_le.mp above
          exact loses ⟨le_trans reached (le_of_lt ahead), decide_eq_true ahead⟩

theorem isBest_foldl (items : List α) {seen : List α} {best : Option α}
    (chosen : IsBest score threshold seen best) :
    IsBest score threshold (seen ++ items)
      (items.foldl (keepBetter score threshold) best) := by
  induction items generalizing seen best with
  | nil =>
      rw [List.append_nil]
      exact chosen
  | cons item rest ih =>
      have next := ih (isBest_keepBetter chosen item)
      rw [List.append_assoc] at next
      exact next

end ArgMax
