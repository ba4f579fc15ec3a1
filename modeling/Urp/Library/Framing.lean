import Mathlib.Data.List.Basic

/-!
# Named frames

A frame is a header, which says where it ends, and a body, which does not: a
body runs to wherever the next header stands.  The main theorem says which
lists of frames can be read back from their text.
-/

namespace Framing

variable {ι α : Type}

/-- The text of the frames. -/
def join (header : ι → List α) : List (ι × List α) → List α
  | [] => []
  | (name, body) :: rest => header name ++ (body ++ join header rest)

/-- A header can be told from whatever follows it. -/
structure SelfDelimiting (header : ι → List α) (Named : ι → Prop) : Prop where
  nonempty : ∀ name, header name ≠ []
  cut : ∀ {first second}, Named first → Named second → ∀ {u v},
    header first ++ u = header second ++ v → first = second ∧ u = v

/-- The body holds the header of a frame that could come next. -/
def Embeds (header : ι → List α) (Listed : List ι → Prop)
    (frame : ι × List α) : Prop :=
  ∃ before next after, Listed [frame.1, next] ∧
    frame.2 = before ++ (header next ++ after)

section Reading

variable {header : ι → List α} {Listed : List ι → Prop}

/-- A header and what follows it can be counted to the body before them. -/
theorem join_merge (first second : ι) (before after : List α)
    (rest : List (ι × List α)) :
    join header ((first, before ++ (header second ++ after)) :: rest) =
      join header ((first, before) :: (second, after) :: rest) := by
  simp only [join, List.append_assoc]

variable (headers : SelfDelimiting header fun name => Listed [name])
variable (fewer : ∀ {part whole}, List.Sublist part whole → Listed whole →
  Listed part)

include headers

theorem join_eq_nil_iff {frames : List (ι × List α)} :
    join header frames = [] ↔ frames = [] := by
  cases frames with
  | nil => exact ⟨fun _ => rfl, fun _ => rfl⟩
  | cons frame rest =>
      constructor
      · intro empty
        have nothing := (List.append_eq_nil_iff.mp empty).1
        exact absurd nothing (headers.nonempty frame.1)
      · intro impossible
        cases impossible

include fewer

/-- The text of one frame starts with that frame, cut off somewhere. -/
theorem join_eq_singleton {frame : ι × List α} {frames : List (ι × List α)}
    (named : Listed [frame.1]) (listed : Listed (frames.map Prod.fst))
    (same : join header frames = join header [frame]) :
    ∃ body rest, frames = (frame.1, body) :: rest ∧
      frame.2 = body ++ join header rest := by
  cases frames with
  | nil =>
      have empty := (join_eq_nil_iff headers).mp same.symm
      cases empty
  | cons first rest =>
      have firstNamed : Listed [first.1] :=
        fewer (List.singleton_sublist.mpr List.mem_cons_self) listed
      obtain ⟨sameName, bodies⟩ := headers.cut firstNamed named same
      refine ⟨first.2, rest, ?_, ?_⟩
      · rw [← sameName]
      · rw [bodies, join, List.append_nil]

/-- Exactly a list of at most one frame whose body embeds no header can be
read back. -/
theorem determined_iff {frames : List (ι × List α)}
    (listed : Listed (frames.map Prod.fst)) :
    (∀ others, Listed (others.map Prod.fst) →
        join header others = join header frames → others = frames) ↔
      frames = [] ∨
        ∃ frame, frames = [frame] ∧ ¬ Embeds header Listed frame := by
  constructor
  · intro determined
    match frames, listed, determined with
    | [], _, _ => exact .inl rfl
    | [frame], _, determined =>
        refine .inr ⟨frame, rfl, ?_⟩
        rintro ⟨before, next, after, follows, body⟩
        have split := determined [(frame.1, before), (next, after)] follows (by
          rw [← join_merge, ← body])
        have lengths := congrArg List.length split
        simp at lengths
    | first :: second :: rest, listed, determined =>
        have kept : Listed (first.1 :: rest.map Prod.fst) :=
          fewer ((List.sublist_cons_self second.1 _).cons_cons first.1) listed
        have merged := determined
          ((first.1, first.2 ++ (header second.1 ++ second.2)) :: rest) kept
          (join_merge first.1 second.1 first.2 second.2 rest)
        have lengths := congrArg List.length merged
        simp at lengths
  · rintro (rfl | ⟨frame, rfl, plain⟩) others othersListed same
    · exact (join_eq_nil_iff headers).mp same
    · obtain ⟨body, rest, rfl, content⟩ :=
        join_eq_singleton headers fewer listed othersListed same
      cases rest with
      | nil =>
          rw [join, List.append_nil] at content
          rw [← content]
      | cons next later =>
          have follows : Listed [frame.1, next.1] :=
            fewer (((List.nil_sublist _).cons_cons next.1).cons_cons frame.1)
              othersListed
          exact absurd ⟨body, next.1, _, follows, content⟩ plain

end Reading

end Framing
