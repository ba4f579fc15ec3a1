import Mathlib.Data.List.Basic
import Mathlib.Data.List.Induction

/-!
# Runs of a state machine

A machine is a step function that takes an input to an output and a next
state.  A run is the list of its visits.  The two induction rules below are
the only inductions over runs that a development needs: what every step keeps
holds throughout, and what every later step keeps still holds at the end.
-/

namespace Run

variable {σ ι ο : Type}

/-- One step of a run with the states on its two sides. -/
structure Visit (σ ι ο : Type) where
  before : σ
  input : ι
  output : ο
  after : σ

variable (step : σ → ι → ο × σ)

def visit (s : σ) (input : ι) : Visit σ ι ο :=
  ⟨s, input, (step s input).1, (step s input).2⟩

theorem visit_before (s : σ) (input : ι) : (visit step s input).before = s := rfl

def visits (s : σ) : List ι → List (Visit σ ι ο)
  | [] => []
  | input :: rest => visit step s input :: visits (step s input).2 rest

def final (s : σ) : List ι → σ
  | [] => s
  | input :: rest => final (step s input).2 rest

variable {step}

theorem final_append (s : σ) (early late : List ι) :
    final step s (early ++ late) = final step (final step s early) late := by
  induction early generalizing s with
  | nil => rfl
  | cons input rest ih => exact ih (step s input).2

theorem visits_append (s : σ) (early late : List ι) :
    visits step s (early ++ late) =
      visits step s early ++ visits step (final step s early) late := by
  induction early generalizing s with
  | nil => rfl
  | cons input rest ih =>
      simp only [List.cons_append, visits, final, ih]

theorem visits_input (s : σ) (inputs : List ι) :
    (visits step s inputs).map Visit.input = inputs := by
  induction inputs generalizing s with
  | nil => rfl
  | cons input rest ih => simp [visits, visit, ih]

/-- An input of the run has a visit. -/
theorem exists_visit {s : σ} {inputs : List ι} {input : ι}
    (member : input ∈ inputs) :
    ∃ v ∈ visits step s inputs, v.input = input := by
  rw [← @visits_input _ _ _ step s inputs] at member
  simpa using member

/-- Every visit is a step of the machine on an input of the run. -/
theorem visit_of_mem {s : σ} {inputs : List ι} {v : Visit σ ι ο}
    (member : v ∈ visits step s inputs) :
    v.input ∈ inputs ∧ v = visit step v.before v.input := by
  induction inputs generalizing s with
  | nil => cases member
  | cons input rest ih =>
      rcases List.mem_cons.mp member with rfl | later
      · exact ⟨List.mem_cons_self, rfl⟩
      · obtain ⟨inputMember, equality⟩ := ih later
        exact ⟨List.mem_cons_of_mem _ inputMember, equality⟩

/-- What came before a visit is a run of its own, which ends where the visit
starts. -/
theorem visits_split {s : σ} {inputs : List ι} {past rest : List (Visit σ ι ο)}
    {v : Visit σ ι ο} (split : visits step s inputs = past ++ v :: rest) :
    ∃ early late, inputs = early ++ v.input :: late ∧
      past = visits step s early ∧
      v = visit step (final step s early) v.input := by
  induction past generalizing s inputs with
  | nil =>
      cases inputs with
      | nil => cases split
      | cons input late =>
          obtain ⟨rfl, -⟩ := List.cons.inj split
          exact ⟨[], late, rfl, rfl, rfl⟩
  | cons first past ih =>
      cases inputs with
      | nil => cases split
      | cons input inputs =>
          obtain ⟨rfl, tail⟩ := List.cons.inj split
          obtain ⟨early, late, rfl, rfl, last⟩ := ih tail
          exact ⟨input :: early, late, rfl, rfl, last⟩

/-- What every step keeps holds at the end of every run. -/
theorem final_induction {holds : σ → Prop} {inputs : List ι} {s : σ}
    (start : holds s)
    (keeps : ∀ s, ∀ input ∈ inputs, holds s → holds (step s input).2) :
    holds (final step s inputs) := by
  induction inputs generalizing s with
  | nil => exact start
  | cons input rest ih =>
      apply ih (keeps s input List.mem_cons_self start)
      intro s input member
      exact keeps s input (List.mem_cons_of_mem _ member)

/-- A property of the inputs so far and the state they lead to. -/
theorem history_induction {holds : List ι → σ → Prop} {s : σ}
    (start : holds [] s)
    (keeps : ∀ early input late, holds early late →
      holds (early ++ [input]) (step late input).2) (inputs : List ι) :
    holds inputs (final step s inputs) := by
  induction inputs using List.reverseRecOn with
  | nil => exact start
  | append_singleton early input ih =>
      rw [final_append]
      exact keeps early input _ ih

/-- A property of the visits so far and the state they lead to. -/
theorem visits_history_induction {holds : List (Visit σ ι ο) → σ → Prop} {s : σ}
    (start : holds [] s)
    (keeps : ∀ history late input, holds history late →
      holds (history ++ [visit step late input]) (step late input).2)
    (inputs : List ι) :
    holds (visits step s inputs) (final step s inputs) := by
  induction inputs using List.reverseRecOn with
  | nil => exact start
  | append_singleton early input ih =>
      rw [final_append, visits_append]
      exact keeps _ _ input ih

/-! ## Properties of every visit and what came before it -/

def Each (holds : List (Visit σ ι ο) → Visit σ ι ο → Prop)
    (history : List (Visit σ ι ο)) : Prop :=
  ∀ past v rest, history = past ++ v :: rest → holds past v

theorem each_nil {holds : List (Visit σ ι ο) → Visit σ ι ο → Prop} :
    Each holds [] := by
  intro past v rest split
  cases past <;> cases split

theorem each_append_singleton_iff
    {holds : List (Visit σ ι ο) → Visit σ ι ο → Prop}
    {history : List (Visit σ ι ο)} {last : Visit σ ι ο} :
    Each holds (history ++ [last]) ↔ Each holds history ∧ holds history last := by
  constructor
  · intro all
    refine ⟨fun past v rest split => ?_, all history last [] rfl⟩
    exact all past v (rest ++ [last]) (by rw [split]; simp)
  · rintro ⟨earlier, now⟩ past v rest split
    rcases List.eq_nil_or_concat rest with rfl | ⟨others, final, rfl⟩
    · obtain ⟨rfl, same⟩ := List.append_inj' split rfl
      cases same
      exact now
    · rw [List.concat_eq_append, ← List.cons_append, ← List.append_assoc]
        at split
      obtain ⟨rfl, -⟩ := List.append_inj' split rfl
      exact earlier past v others rfl

/-- A property that does not look at what came before. -/
theorem each_iff_forall_mem {holds : Visit σ ι ο → Prop}
    {history : List (Visit σ ι ο)} :
    Each (fun _ v => holds v) history ↔ ∀ v ∈ history, holds v := by
  constructor
  · intro each v member
    obtain ⟨past, rest, split⟩ := List.append_of_mem member
    exact each past v rest split
  · rintro all past v rest rfl
    exact all v (by simp)

/-- If in a good state a step is right exactly when it meets its guard, and
steps that meet it lead to good states, then the steps of a run are all right
exactly when they all meet the guard. -/
theorem each_iff_of_step {s : σ}
    {good : List (Visit σ ι ο) → σ → Prop}
    {right guard : List (Visit σ ι ο) → Visit σ ι ο → Prop} (start : good [] s)
    (exact : ∀ history late input, good history late →
      (right history (visit step late input) ↔
        guard history (visit step late input)))
    (keeps : ∀ history late input, good history late →
      guard history (visit step late input) →
        good (history ++ [visit step late input]) (step late input).2)
    (inputs : List ι) :
    Each right (visits step s inputs) ↔ Each guard (visits step s inputs) := by
  let holds := fun (history : List (Visit σ ι ο)) (late : σ) =>
    (Each right history ↔ Each guard history) ∧
      (Each guard history → good history late)
  have whole : holds (visits step s inputs) (final step s inputs) := by
    apply visits_history_induction
    · exact ⟨iff_of_true each_nil each_nil, fun _ => start⟩
    · rintro history late input ⟨same, leads⟩
      constructor
      · rw [each_append_singleton_iff, each_append_singleton_iff, same]
        exact and_congr_right fun guarded =>
          exact history late input (leads guarded)
      · rw [each_append_singleton_iff]
        rintro ⟨guarded, now⟩
        exact keeps history late input (leads guarded) now
  exact whole.1

/-- What a guarded step keeps holds on both sides of every visit of a run
whose steps all meet the guard. -/
theorem visits_guarded {holds : σ → Prop} {guard : σ → ι → Prop}
    {inputs : List ι} {s : σ} (start : holds s)
    (keeps : ∀ s input, guard s input → holds s → holds (step s input).2)
    (guarded : ∀ v ∈ visits step s inputs, guard v.before v.input) :
    ∀ v ∈ visits step s inputs, holds v.before ∧ holds v.after := by
  induction inputs generalizing s with
  | nil => intro v member; cases member
  | cons input rest ih =>
      intro v member
      have next := keeps s input (guarded _ List.mem_cons_self) start
      rcases List.mem_cons.mp member with rfl | later
      · exact ⟨start, next⟩
      · exact ih next (fun w visited =>
          guarded w (List.mem_cons_of_mem _ visited)) v later

/-- Such a step keeps it to the end of the run. -/
theorem final_guarded {holds : σ → Prop} {guard : σ → ι → Prop}
    {inputs : List ι} {s : σ} (start : holds s)
    (keeps : ∀ s input, guard s input → holds s → holds (step s input).2)
    (guarded : ∀ v ∈ visits step s inputs, guard v.before v.input) :
    holds (final step s inputs) := by
  induction inputs generalizing s with
  | nil => exact start
  | cons input rest ih =>
      apply ih (keeps s input (guarded _ List.mem_cons_self) start)
      intro v visited
      exact guarded v (List.mem_cons_of_mem _ visited)

/-- What every step keeps holds on both sides of every visit. -/
theorem visits_induction {holds : σ → Prop} {inputs : List ι} {s : σ}
    (start : holds s)
    (keeps : ∀ s, ∀ input ∈ inputs, holds s → holds (step s input).2) :
    ∀ v ∈ visits step s inputs, holds v.before ∧ holds v.after :=
  visits_guarded start keeps fun _ member => (visit_of_mem member).1

/-- What holds after a visit and is kept by every later step from a state
that satisfies the invariant still holds at the end. -/
theorem final_of_visit {invariant holds : σ → Prop} {inputs : List ι} {s : σ}
    (start : invariant s)
    (keeps : ∀ s, ∀ input ∈ inputs, invariant s →
      invariant (step s input).2)
    (stable : ∀ s, ∀ input ∈ inputs, invariant s → holds s →
      holds (step s input).2)
    {v : Visit σ ι ο} (member : v ∈ visits step s inputs)
    (after : holds v.after) :
    holds (final step s inputs) := by
  induction inputs generalizing s with
  | nil => cases member
  | cons input rest ih =>
      have next := keeps s input List.mem_cons_self start
      have keepsRest : ∀ s, ∀ later ∈ rest, invariant s →
          invariant (step s later).2 := fun s later laterMember =>
        keeps s later (List.mem_cons_of_mem _ laterMember)
      have stableRest : ∀ s, ∀ later ∈ rest, invariant s → holds s →
          holds (step s later).2 := fun s later laterMember =>
        stable s later (List.mem_cons_of_mem _ laterMember)
      rcases List.mem_cons.mp member with rfl | later
      · let both : σ → Prop := fun s => invariant s ∧ holds s
        have atEnd : both (final step (step s input).2 rest) :=
          final_induction ⟨next, after⟩ fun s later laterMember before =>
            ⟨keepsRest s later laterMember before.1,
              stableRest s later laterMember before.1 before.2⟩
        exact atEnd.2
      · exact ih next keepsRest stableRest later

end Run
