import Mathlib.Data.List.Forall2
import Urp.Library.Dict

/-!
# Dictionaries with the same keys

Two dictionaries are alike when they hold the same keys in the same order with
related values.  Every operation that treats related values alike keeps them
alike.
-/

namespace Entries

variable {κ α β : Type}

def Alike (related : α → β → Prop) : List (κ × α) → List (κ × β) → Prop :=
  List.Forall₂ fun left right => left.1 = right.1 ∧ related left.2 right.2

variable {related : α → β → Prop} {left : List (κ × α)}
  {right : List (κ × β)}

theorem Alike.filter (alike : Alike related left right) {keep : κ → α → Bool}
    {hold : κ → β → Bool}
    (same : ∀ key first second, related first second →
      keep key first = hold key second) :
    Alike related (left.filter fun entry => keep entry.1 entry.2)
      (right.filter fun entry => hold entry.1 entry.2) := by
  induction alike with
  | nil => exact .nil
  | @cons entry row entries rows head tail ih =>
      obtain ⟨key, value⟩ := entry
      obtain ⟨other, column⟩ := row
      obtain ⟨rfl, values⟩ := head
      have kept := same key value column values
      simp only [List.filter_cons, kept]
      split
      · exact .cons ⟨rfl, values⟩ ih
      · exact ih

variable [DecidableEq κ]

theorem Alike.insert (alike : Alike related left right) (target : κ)
    {first : α} {second : β} (new : related first second) :
    Alike related (Entries.insert left target first)
      (Entries.insert right target second) := by
  induction alike with
  | nil => exact .cons ⟨rfl, new⟩ .nil
  | @cons entry row entries rows head tail ih =>
      obtain ⟨key, value⟩ := entry
      obtain ⟨other, column⟩ := row
      obtain ⟨rfl, values⟩ := head
      by_cases same : key = target
      · simp only [Entries.insert, same, if_true]
        exact .cons ⟨rfl, new⟩ tail
      · simp only [Entries.insert, same, if_false]
        exact .cons ⟨rfl, values⟩ ih

/-- A key is absent from both, or the values under it are related. -/
theorem Alike.lookup (alike : Alike related left right) (target : κ) :
    (Entries.lookup left target = none ∧ Entries.lookup right target = none) ∨
      ∃ first second, Entries.lookup left target = some first ∧
        Entries.lookup right target = some second ∧ related first second := by
  induction alike with
  | nil => exact .inl ⟨rfl, rfl⟩
  | @cons entry row entries rows head tail ih =>
      obtain ⟨key, value⟩ := entry
      obtain ⟨other, column⟩ := row
      obtain ⟨rfl, values⟩ := head
      by_cases same : key = target
      · simp only [Entries.lookup, same, if_true]
        exact .inr ⟨value, column, rfl, rfl, values⟩
      · simp only [Entries.lookup, same, if_false]
        exact ih

end Entries

namespace Dict

variable {κ α β : Type}

/-- The same keys in the same order, with related values. -/
def Alike (related : α → β → Prop) (left : Dict κ α) (right : Dict κ β) : Prop :=
  Entries.Alike related left.entries right.entries

variable {related : α → β → Prop} {left : Dict κ α} {right : Dict κ β}

theorem alike_empty : Alike related (∅ : Dict κ α) (∅ : Dict κ β) := .nil

theorem Alike.length_eq (alike : Alike related left right) :
    left.entries.length = right.entries.length := List.Forall₂.length_eq alike

theorem Alike.filter (alike : Alike related left right) {keep : κ → α → Bool}
    {hold : κ → β → Bool}
    (same : ∀ key first second, related first second →
      keep key first = hold key second) :
    Alike related (left.filter keep) (right.filter hold) :=
  Entries.Alike.filter alike same

variable [DecidableEq κ]

theorem Alike.lookup (alike : Alike related left right) (key : κ) :
    (left.lookup key = none ∧ right.lookup key = none) ∨
      ∃ first second, left.lookup key = some first ∧
        right.lookup key = some second ∧ related first second :=
  Entries.Alike.lookup alike key

theorem Alike.insert (alike : Alike related left right) (key : κ) {first : α}
    {second : β} (new : related first second) :
    Alike related (left.insert key first) (right.insert key second) :=
  Entries.Alike.insert alike key new

theorem Alike.erase (alike : Alike related left right) (key : κ) :
    Alike related (left.erase key) (right.erase key) :=
  @Alike.filter _ _ _ _ _ _ alike (fun other _ => !decide (other = key))
    (fun other _ => !decide (other = key)) fun _ _ _ _ => rfl

end Dict
