import Mathlib.Logic.Relation
import Mathlib.Order.WellFounded

/-!
# Relations changed at one point

The predecessors of one point are replaced by others.  A relation that was
well-founded stays so exactly if none of the new predecessors comes after the
point.
-/

namespace Rewiring

open Relation

variable {α : Type} {a x y : α} {r s : α → α → Prop}

/-- The two relations have the same predecessors, but for those of a point. -/
def SameOff (a : α) (r s : α → α → Prop) : Prop :=
  ∀ y x, x ≠ a → (s y x ↔ r y x)

/-- What does not come after the point stays accessible. -/
theorem SameOff.acc_apart (same : SameOff a r s) (acc : Acc r x)
    (apart : ¬ ReflTransGen r a x) : Acc s x := by
  induction acc with
  | intro x _ ih =>
      have ne : x ≠ a := by
        rintro rfl
        exact apart .refl
      constructor
      intro y below
      have before := (same y x ne).mp below
      exact ih y before fun further => apart (further.tail before)

/-- Everything stays accessible if the point does. -/
theorem SameOff.acc (same : SameOff a r s) (point : Acc s a) (acc : Acc r x) :
    Acc s x := by
  induction acc with
  | intro x _ ih =>
      by_cases renewed : x = a
      · rw [renewed]
        exact point
      · constructor
        intro y below
        exact ih y ((same y x renewed).mp below)

/-- With a new predecessor that comes after it, the point is on a cycle. -/
theorem SameOff.not_acc (same : SameOff a r s) (edge : s y a)
    (after : ReflTransGen r a y) (further : ReflTransGen r a x) :
    ¬ Acc s x := by
  intro acc
  induction acc with
  | intro x _ ih =>
      by_cases renewed : x = a
      · rw [renewed] at ih
        exact ih y edge after
      · cases further with
        | refl => exact renewed rfl
        | tail earlier last => exact ih _ ((same _ x renewed).mpr last) earlier

theorem SameOff.wellFounded_iff (same : SameOff a r s)
    (before : WellFounded r) :
    WellFounded s ↔ ∀ y, s y a → ¬ ReflTransGen r a y := by
  constructor
  · intro wellFounded y edge after
    exact same.not_acc edge after .refl (wellFounded.apply a)
  · intro straight
    have point : Acc s a := by
      constructor
      intro y edge
      exact same.acc_apart (before.apply y) (straight y edge)
    exact ⟨fun x => same.acc point (before.apply x)⟩

end Rewiring
