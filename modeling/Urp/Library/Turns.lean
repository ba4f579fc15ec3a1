import Urp.Library.Run

/-!
# Calls that take turns

Any number of calls run on one shared state.  A call has a local state and
advances by turns, each of which reads and writes the shared state at once;
between two turns of a call any other calls may begin or take turns.
-/

namespace Turns

variable {σ ρ γ : Type}

structure System (σ γ : Type) where
  shared : σ
  calls : List γ := []

inductive Action (ρ : Type) where
  | begin (request : ρ)
  | turn (index : Nat)

/-- The turn of a call, with its local state on both sides. -/
structure Turned (γ : Type) where
  index : Nat
  before : γ
  after : γ

abbrev Visit (σ ρ γ : Type) : Type :=
  Run.Visit (System σ γ) (Action ρ) (Option (Turned γ))

variable (enter : ρ → γ) (advance : γ → σ → γ × σ)

def step (system : System σ γ) : Action ρ → Option (Turned γ) × System σ γ
  | .begin request =>
      (none, { system with calls := system.calls ++ [enter request] })
  | .turn index =>
      match system.calls[index]? with
      | none => (none, system)
      | some call =>
          let next := advance call system.shared
          (some ⟨index, call, next.1⟩,
            ⟨next.2, system.calls.set index next.1⟩)

variable {enter advance} {system : System σ γ} {index : Nat} {call : γ}

theorem step_turn (present : system.calls[index]? = some call) :
    step enter advance system (.turn index : Action ρ) =
      (some ⟨index, call, (advance call system.shared).1⟩,
        ⟨(advance call system.shared).2,
          system.calls.set index (advance call system.shared).1⟩) := by
  simp only [step, present]

/-- A visit with a turn ran the call that it names. -/
theorem turned_of_step {s : System σ γ} {action : Action ρ} {turned : Turned γ}
    (output : (step enter advance s action).1 = some turned) :
    action = .turn turned.index ∧
      s.calls[turned.index]? = some turned.before ∧
      turned.after = (advance turned.before s.shared).1 ∧
      (step enter advance s action).2.shared =
        (advance turned.before s.shared).2 := by
  cases action with
  | begin request => cases output
  | turn index =>
      cases present : s.calls[index]? with
      | none =>
          simp only [step, present] at output
          cases output
      | some call =>
          rw [step_turn present] at output ⊢
          cases output
          exact ⟨rfl, present, rfl, rfl⟩

/-- What holds at first, and is kept when a call begins and when one takes a
turn, holds of every run. -/
theorem induction {holds : List (Visit σ ρ γ) → System σ γ → Prop}
    {s : σ} (start : holds [] ⟨s, []⟩)
    (begins : ∀ history system request, holds history system →
      holds (history ++ [Run.visit (step enter advance) system (.begin request)])
        { system with calls := system.calls ++ [enter request] })
    (missed : ∀ history system index, holds history system →
      system.calls[index]? = none →
      holds (history ++ [Run.visit (step enter advance) system (.turn index)])
        system)
    (turns : ∀ history system index call, holds history system →
      system.calls[index]? = some call →
      holds (history ++ [Run.visit (step enter advance) system (.turn index)])
        ⟨(advance call system.shared).2,
          system.calls.set index (advance call system.shared).1⟩)
    (actions : List (Action ρ)) :
    holds (Run.visits (step enter advance) ⟨s, []⟩ actions)
      (Run.final (step enter advance) ⟨s, []⟩ actions) := by
  apply Run.visits_history_induction start
  intro history system action before
  cases action with
  | begin request => exact begins history system request before
  | turn index =>
      cases present : system.calls[index]? with
      | none =>
          have still := missed history system index before present
          simpa only [step, present] using still
      | some call =>
          rw [step_turn present]
          exact turns history system index call before present

/-- The turns of one call, one after another. -/
def alone (advance : γ → σ → γ × σ) : Nat → γ × σ → γ × σ
  | 0, both => both
  | turns + 1, both => alone advance turns (advance both.1 both.2)

theorem final_replicate_turn (present : system.calls[index]? = some call)
    (turns : Nat) :
    Run.final (step enter advance) system
        (List.replicate turns (.turn index : Action ρ)) =
      let both := alone advance turns (call, system.shared)
      ⟨both.2, system.calls.set index both.1⟩ := by
  induction turns generalizing system call with
  | zero =>
      obtain ⟨inside, same⟩ := List.getElem?_eq_some_iff.mp present
      simp [Run.final, alone, ← same]
  | succ turns ih =>
      have inside := (List.getElem?_eq_some_iff.mp present).1
      rw [List.replicate_succ, Run.final, step_turn present]
      have next := @ih ⟨(advance call system.shared).2,
        system.calls.set index (advance call system.shared).1⟩ _
        (List.getElem?_set_self inside)
      simp only [next, List.set_set, alone]

/-! ## The calls after a step -/

theorem getElem?_append_begin {calls : List γ} {new : γ}
    (present : calls[index]? = some call) :
    (calls ++ [new])[index]? = some call := by
  rw [List.getElem?_append_left]
  · exact present
  · exact (List.getElem?_eq_some_iff.mp present).1

/-- A call of the list is an old one or the one that began. -/
theorem getElem?_append_cases {calls : List γ} {new : γ}
    (present : (calls ++ [new])[index]? = some call) :
    calls[index]? = some call ∨ call = new := by
  rw [List.getElem?_append] at present
  split at present
  · exact .inl present
  · exact .inr (List.mem_singleton.mp (List.mem_of_getElem? present))

/-- A call of the list after a turn is the one that took it or an old one. -/
theorem getElem?_set_cases {calls : List γ} {turned : Nat} {next : γ}
    (present : (calls.set turned next)[index]? = some call) :
    index = turned ∧ call = next ∨
      index ≠ turned ∧ calls[index]? = some call := by
  by_cases same : index = turned
  · subst same
    rw [List.getElem?_set_self'] at present
    cases found : calls[index]? with
    | none => simp [found] at present
    | some old =>
        simp only [found, Option.map_eq_map, Option.map_some,
          Option.some.injEq] at present
        exact .inl ⟨rfl, present.symm⟩
  · rw [List.getElem?_set_ne (Ne.symm same)] at present
    exact .inr ⟨same, present⟩

/-- What no turn changes of a call is the same in all its turns and still at
the end. -/
theorem kept_of_turned {π : Type} (project : γ → π)
    (kept : ∀ call s, project (advance call s).1 = project call) (s : σ)
    (actions : List (Action ρ)) :
    ∀ v ∈ Run.visits (step enter advance) ⟨s, []⟩ actions,
      ∀ turned, v.output = some turned →
        ∃ call, (Run.final (step enter advance) ⟨s, []⟩ actions).calls[turned.index]? =
          some call ∧ project call = project turned.before := by
  let holds := fun (history : List (Visit σ ρ γ)) (system : System σ γ) =>
    ∀ v ∈ history, ∀ turned : Turned γ, v.output = some turned →
      ∃ call, system.calls[turned.index]? = some call ∧
        project call = project turned.before
  apply @induction σ ρ γ enter advance holds
  · intro v member
    cases member
  · intro history system request before v member turned output
    rcases List.mem_append.mp member with old | new
    · obtain ⟨call, present, same⟩ := before v old turned output
      exact ⟨call, getElem?_append_begin present, same⟩
    · rw [List.mem_singleton.mp new] at output
      cases output
  · intro history system index before missing v member turned output
    rcases List.mem_append.mp member with old | new
    · exact before v old turned output
    · rw [List.mem_singleton.mp new] at output
      obtain ⟨same, present, -⟩ := turned_of_step output
      cases same
      rw [missing] at present
      cases present
  · intro history system index running before present v member turned output
    have atIndex : (system.calls.set index
        (advance running system.shared).1)[index]? =
          some (advance running system.shared).1 :=
      List.getElem?_set_self (List.getElem?_eq_some_iff.mp present).1
    rcases List.mem_append.mp member with old | new
    · obtain ⟨call, found, same⟩ := before v old turned output
      by_cases here : turned.index = index
      · rw [here] at found ⊢
        rw [present] at found
        cases found
        exact ⟨_, atIndex, (kept _ _).trans same⟩
      · refine ⟨call, ?_, same⟩
        rw [List.getElem?_set_ne (Ne.symm here)]
        exact found
    · rw [List.mem_singleton.mp new] at output
      obtain ⟨same, found, -⟩ := turned_of_step output
      cases same
      rw [present] at found
      cases found
      exact ⟨_, atIndex, kept _ _⟩

end Turns
