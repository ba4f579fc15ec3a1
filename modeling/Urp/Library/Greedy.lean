import Mathlib.Data.List.Nodup

/-!
# Greedy selection

A pass over a list takes an item if the items taken so far admit it.  Every
item is marked with whether it was taken, so that each decision can be read
off the marks before it.
-/

namespace Greedy

variable {α β : Type}

/-! ## Marked lists -/

def kept (marked : List (α × Bool)) : List α :=
  (marked.filter Prod.snd).map Prod.fst

def dropped (marked : List (α × Bool)) : List α :=
  (marked.filter fun mark => !mark.2).map Prod.fst

@[simp] theorem kept_nil : kept ([] : List (α × Bool)) = [] := rfl

@[simp] theorem kept_cons_true (item : α) (marked : List (α × Bool)) :
    kept ((item, true) :: marked) = item :: kept marked := rfl

@[simp] theorem kept_cons_false (item : α) (marked : List (α × Bool)) :
    kept ((item, false) :: marked) = kept marked := rfl

@[simp] theorem dropped_nil : dropped ([] : List (α × Bool)) = [] := rfl

@[simp] theorem dropped_cons_true (item : α) (marked : List (α × Bool)) :
    dropped ((item, true) :: marked) = dropped marked := rfl

@[simp] theorem dropped_cons_false (item : α) (marked : List (α × Bool)) :
    dropped ((item, false) :: marked) = item :: dropped marked := rfl

theorem kept_sublist (marked : List (α × Bool)) :
    (kept marked).Sublist (marked.map Prod.fst) :=
  List.filter_sublist.map Prod.fst

theorem length_kept_add_dropped (marked : List (α × Bool)) :
    (kept marked).length + (dropped marked).length = marked.length := by
  induction marked with
  | nil => rfl
  | cons mark marked ih =>
      obtain ⟨item, flag⟩ := mark
      cases flag with
      | true =>
          rw [kept_cons_true, dropped_cons_true, List.length_cons,
            List.length_cons]
          omega
      | false =>
          rw [kept_cons_false, dropped_cons_false, List.length_cons,
            List.length_cons]
          omega

theorem mem_kept_iff {marked : List (α × Bool)} {item : α} :
    item ∈ kept marked ↔ (item, true) ∈ marked := by
  simp [kept]

/-- Where the items have distinct keys, the keys of those kept tell the
marks. -/
theorem marked_eq_of_nodup [DecidableEq β] {marked : List (α × Bool)}
    (key : α → β) (distinct : ((marked.map Prod.fst).map key).Nodup) :
    marked = (marked.map Prod.fst).map fun item =>
      (item, decide (key item ∈ (kept marked).map key)) := by
  rw [List.map_map]
  apply Eq.symm
  apply (List.map_congr_left ?_).trans (List.map_id marked)
  intro mark member
  obtain ⟨item, flag⟩ := mark
  have decided : decide (key item ∈ (kept marked).map key) = flag := by
    cases flag with
    | true =>
        apply decide_eq_true
        exact List.mem_map_of_mem (mem_kept_iff.mpr member)
    | false =>
        apply decide_eq_false
        intro listed
        obtain ⟨other, keptOther, same⟩ := List.mem_map.mp listed
        rw [List.map_map] at distinct
        have equal := List.inj_on_of_nodup_map distinct
          (mem_kept_iff.mp keptOther) member same
        cases equal
  exact congrArg (Prod.mk item) decided

/-! ## The pass -/

variable (admits : List α → α → Bool)

/-- The items, each with whether it is taken after those in `taken`. -/
def marks (taken : List α) : List α → List (α × Bool)
  | [] => []
  | item :: rest =>
      if admits taken item then (item, true) :: marks (taken ++ [item]) rest
      else (item, false) :: marks taken rest

theorem map_fst_marks (taken items : List α) :
    (marks admits taken items).map Prod.fst = items := by
  induction items generalizing taken with
  | nil => rfl
  | cons item rest ih =>
      rw [marks]
      split
      · rw [List.map_cons, ih]
      · rw [List.map_cons, ih]

/-- A mark is the answer of the items taken before it. -/
theorem mark_of_split {taken items : List α} {early late : List (α × Bool)}
    {item : α} {flag : Bool}
    (split : marks admits taken items = early ++ (item, flag) :: late) :
    flag = admits (taken ++ kept early) item := by
  induction items generalizing taken early with
  | nil => simp [marks] at split
  | cons first rest ih =>
      rw [marks] at split
      cases admitted : admits taken first with
      | true =>
          rw [admitted, if_pos rfl] at split
          cases early with
          | nil =>
              obtain ⟨head, -⟩ := List.cons.inj split
              cases head
              simpa using admitted.symm
          | cons mark early =>
              obtain ⟨rfl, tail⟩ := List.cons.inj split
              simpa using ih tail
      | false =>
          rw [admitted, if_neg Bool.false_ne_true] at split
          cases early with
          | nil =>
              obtain ⟨head, -⟩ := List.cons.inj split
              cases head
              simpa using admitted.symm
          | cons mark early =>
              obtain ⟨rfl, tail⟩ := List.cons.inj split
              simpa using ih tail

/-- What an admitted item keeps holds of the items taken. -/
theorem taken_induction {motive : List α → Prop} {taken : List α}
    (start : motive taken)
    (step : ∀ before item, motive before → admits before item = true →
      motive (before ++ [item])) (items : List α) :
    motive (taken ++ kept (marks admits taken items)) := by
  induction items generalizing taken with
  | nil => simpa [marks] using start
  | cons item rest ih =>
      rw [marks]
      cases admitted : admits taken item with
      | true =>
          have later := ih (step taken item start admitted)
          simpa using later
      | false => simpa using ih start

/-- The items taken are all taken again. -/
theorem marks_kept (taken items : List α) :
    marks admits taken (kept (marks admits taken items)) =
      (kept (marks admits taken items)).map fun item => (item, true) := by
  induction items generalizing taken with
  | nil => rfl
  | cons item rest ih =>
      rw [marks]
      cases admitted : admits taken item with
      | true =>
          rw [if_pos rfl, kept_cons_true, marks, admitted, if_pos rfl, ih,
            List.map_cons]
      | false =>
          rw [if_neg Bool.false_ne_true, kept_cons_false]
          exact ih taken

theorem kept_map_true (items : List α) :
    kept (items.map fun item => (item, true)) = items := by
  induction items with
  | nil => rfl
  | cons item rest ih => rw [List.map_cons, kept_cons_true, ih]

theorem dropped_map_true (items : List α) :
    dropped (items.map fun item => (item, true)) = [] := by
  induction items with
  | nil => rfl
  | cons item rest ih => rw [List.map_cons, dropped_cons_true, ih]

end Greedy
