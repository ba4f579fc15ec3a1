import Mathlib.Data.List.DropRight

/-!
# Line-terminated files

A file of terminated lines read in two ways: forwards, as the pieces between
terminators, and backwards, as the last line found by reading blocks from the
end until one holds a terminator.
-/

namespace Lines

variable {α : Type}

/-- The file whose lines these are. -/
def terminated (newline : α) (lines : List (List α)) : List α :=
  lines.flatMap fun line => line ++ [newline]

theorem terminated_append (newline : α) (early late : List (List α)) :
    terminated newline (early ++ late) =
      terminated newline early ++ terminated newline late := by
  simp [terminated]

theorem terminated_singleton (newline : α) (line : List α) :
    terminated newline [line] = line ++ [newline] := by
  simp [terminated]

theorem rdropWhile_append {isEnd : α → Bool} {early late : List α}
    (kept : late.rdropWhile isEnd ≠ []) :
    (early ++ late).rdropWhile isEnd = early ++ late.rdropWhile isEnd := by
  have reversed : late.reverse.dropWhile isEnd ≠ [] := by
    intro empty
    apply kept
    simp [List.rdropWhile, empty]
  unfold List.rdropWhile
  rw [List.reverse_append, List.dropWhile_append, if_neg (by simpa using
    reversed), List.reverse_append, List.reverse_reverse]

/-- The last terminator of a text. -/
theorem exists_last {newline : α} {text : List α} (member : newline ∈ text) :
    ∃ early late, text = early ++ newline :: late ∧ newline ∉ late := by
  obtain ⟨late, early, reversed, clean⟩ :=
    List.eq_append_cons_of_mem (List.mem_reverse.mpr member)
  refine ⟨early.reverse, late.reverse, ?_, by simpa using clean⟩
  rw [← List.reverse_reverse text, reversed]
  simp

variable [DecidableEq α]

/-- The pieces between the terminators. -/
def pieces (newline : α) : List α → List (List α)
  | [] => [[]]
  | c :: rest =>
      if c = newline then [] :: pieces newline rest
      else
        match pieces newline rest with
        | [] => [[c]]
        | first :: others => (c :: first) :: others

/-- What is left of the last line once the terminators at the end of the file
are stripped; `none` if nothing is. -/
def finalLine (isEnd : α → Bool) (newline : α) (file : List α) :
    Option (List α) :=
  match file.rdropWhile isEnd with
  | [] => none
  | stripped => some (stripped.rtakeWhile fun c => c ≠ newline)

/-- Read blocks backwards from `position` until the stripped buffer holds a
terminator or the file is exhausted. -/
def readBack (block : Nat) (isEnd : α → Bool) (newline : α) (file : List α) :
    Nat → Nat → List α → Option (List α)
  | 0, _, _ => none
  | fuel + 1, position, buffer =>
      if position = 0 then none
      else
        let size := min block position
        let start := position - size
        let buffer := (file.drop start).take size ++ buffer
        if start = 0 ∨ newline ∈ buffer.rdropWhile isEnd then
          finalLine isEnd newline buffer
        else readBack block isEnd newline file fuel start buffer

theorem pieces_ne_nil {newline : α} (text : List α) :
    pieces newline text ≠ [] := by
  cases text with
  | nil => exact List.cons_ne_nil _ _
  | cons c rest =>
      rw [pieces]
      split
      · exact List.cons_ne_nil _ _
      · split <;> exact List.cons_ne_nil _ _

/-- The pieces on the two sides of a terminator. -/
theorem pieces_append {newline : α} (early late : List α) :
    pieces newline (early ++ newline :: late) =
      pieces newline early ++ pieces newline late := by
  induction early with
  | nil => simp [pieces]
  | cons c early ih =>
      rw [List.cons_append, pieces, pieces]
      split
      · rw [ih, List.cons_append]
      · rw [ih]
        cases whole : pieces newline early with
        | nil => exact absurd whole (pieces_ne_nil early)
        | cons first others => rfl

theorem pieces_line {newline : α} {line : List α} (clean : newline ∉ line)
    (rest : List α) :
    pieces newline (line ++ newline :: rest) =
      line :: pieces newline rest := by
  induction line with
  | nil => simp [pieces]
  | cons c line ih =>
      simp only [List.mem_cons, not_or] at clean
      simp [pieces, Ne.symm clean.1, ih clean.2]

/-- Reading forwards finds the lines, then the pieces of what follows. -/
theorem pieces_terminated_append {newline : α} {lines : List (List α)}
    (clean : ∀ line ∈ lines, newline ∉ line) (rest : List α) :
    pieces newline (terminated newline lines ++ rest) =
      lines ++ pieces newline rest := by
  induction lines with
  | nil => rfl
  | cons line others ih =>
      have cleanRest : ∀ other ∈ others, newline ∉ other :=
        fun other member => clean other (List.mem_cons_of_mem _ member)
      have first := pieces_line (clean line List.mem_cons_self)
        (terminated newline others ++ rest)
      rw [ih cleanRest] at first
      simpa [terminated] using first

/-- Nothing but an empty piece follows the last line. -/
theorem pieces_terminated {newline : α} {lines : List (List α)}
    (clean : ∀ line ∈ lines, newline ∉ line) :
    pieces newline (terminated newline lines) = lines ++ [[]] := by
  have whole := pieces_terminated_append clean []
  rwa [List.append_nil] at whole

/-- An unterminated line is one piece. -/
theorem pieces_clean {newline : α} {line : List α} (clean : newline ∉ line) :
    pieces newline line = [line] := by
  induction line with
  | nil => rfl
  | cons c line ih =>
      simp only [List.mem_cons, not_or] at clean
      simp [pieces, Ne.symm clean.1, ih clean.2]

/-- A piece has no characters of its own. -/
theorem mem_of_mem_pieces {newline c : α} {text piece : List α}
    (listed : piece ∈ pieces newline text) (member : c ∈ piece) : c ∈ text := by
  induction text generalizing piece with
  | nil =>
      rw [List.mem_singleton.mp listed] at member
      cases member
  | cons d text ih =>
      rw [pieces] at listed
      split at listed
      · rcases List.mem_cons.mp listed with rfl | later
        · cases member
        · exact List.mem_cons_of_mem _ (ih later member)
      · cases whole : pieces newline text with
        | nil => exact absurd whole (pieces_ne_nil text)
        | cons first others =>
            rw [whole] at listed ih
            rcases List.mem_cons.mp listed with rfl | later
            · rcases List.mem_cons.mp member with rfl | inside
              · exact List.mem_cons_self
              · exact List.mem_cons_of_mem _ (ih List.mem_cons_self inside)
            · exact List.mem_cons_of_mem _
                (ih (List.mem_cons_of_mem _ later) member)

section Backwards

variable {isEnd : α → Bool} {newline : α}

theorem rtakeWhile_append {early late : List α} (member : newline ∈ late) :
    (early ++ late).rtakeWhile (fun c => c ≠ newline) =
      late.rtakeWhile fun c => c ≠ newline := by
  have stops : (late.reverse.takeWhile fun c => c ≠ newline).length ≠
      late.reverse.length := by
    intro same
    have whole := (List.takeWhile_prefix fun c => decide (c ≠ newline)).eq_of_length
      same
    have every := List.takeWhile_eq_self_iff.mp whole newline
      (List.mem_reverse.mpr member)
    simp at every
  unfold List.rtakeWhile
  rw [List.reverse_append, List.takeWhile_append, if_neg stops]

/-- A terminator in the stripped tail of a file decides its last line. -/
theorem finalLine_append {early late : List α}
    (member : newline ∈ late.rdropWhile isEnd) :
    finalLine isEnd newline (early ++ late) = finalLine isEnd newline late := by
  have kept : late.rdropWhile isEnd ≠ [] := List.ne_nil_of_mem member
  have stripped := @rdropWhile_append α isEnd early late kept
  unfold finalLine
  rw [stripped]
  cases tail : late.rdropWhile isEnd with
  | nil => exact absurd tail kept
  | cons c rest =>
      rw [tail] at member
      cases whole : early ++ c :: rest with
      | nil => simp at whole
      | cons d others =>
          simp only [← whole, rtakeWhile_append member]

/-- Whatever the block size, the backward reader finds the last line. -/
theorem readBack_eq {block : Nat} (positive : 0 < block) (file : List α)
    {fuel position : Nat} (enough : position ≤ fuel)
    (inside : position ≤ file.length) (unfinished : 0 < position) :
    readBack block isEnd newline file fuel position (file.drop position) =
      finalLine isEnd newline file := by
  induction fuel generalizing position with
  | zero => omega
  | succ fuel ih =>
      let size := min block position
      let start := position - size
      have sizePositive : 0 < size := by omega
      have joined : (file.drop start).take size ++ file.drop position =
          file.drop start := by
        have split := List.take_append_drop size (file.drop start)
        rw [List.drop_drop] at split
        have position_eq : start + size = position := by omega
        rwa [position_eq] at split
      rw [readBack, if_neg (by omega)]
      simp only [show min block position = size from rfl,
        show position - size = start from rfl, joined]
      split
      · rename_i found
        rcases found with atStart | member
        · rw [atStart, List.drop_zero]
        · have whole := @finalLine_append α _ isEnd newline (file.take start)
            (file.drop start) member
          rw [List.take_append_drop] at whole
          exact whole.symm
      · rename_i missing
        exact ih (by omega) (by omega) (by omega)

/-- The last line of a file, without what is stripped from its end. -/
theorem finalLine_terminated {lines : List (List α)} {line : List α}
    (ends : isEnd newline = true) (clean : newline ∉ line)
    (kept : line.rdropWhile isEnd ≠ []) :
    finalLine isEnd newline (terminated newline (lines ++ [line])) =
      some (line.rdropWhile isEnd) := by
  have last : (line ++ [newline]).rdropWhile isEnd = line.rdropWhile isEnd :=
    List.rdropWhile_concat_pos _ _ _ ends
  rw [terminated_append, terminated_singleton]
  have stripped := @rdropWhile_append α isEnd (terminated newline lines)
    (line ++ [newline]) (by rw [last]; exact kept)
  rw [last] at stripped
  have inside : newline ∉ line.rdropWhile isEnd := fun member =>
    clean ((List.rdropWhile_prefix _ _).subset member)
  generalize line.rdropWhile isEnd = line at stripped kept inside ⊢
  have every : line.reverse.takeWhile (fun c => decide (c ≠ newline)) =
      line.reverse := by
    rw [List.takeWhile_eq_self_iff]
    intro c member
    have different : c ≠ newline := fun same =>
      inside (same ▸ List.mem_reverse.mp member)
    simpa using different
  have taken : (terminated newline lines ++ line).rtakeWhile
      (fun c => c ≠ newline) = line := by
    unfold List.rtakeWhile
    rcases lines.eq_nil_or_concat' with rfl | ⟨early, last, rfl⟩
    · rw [show terminated newline [] ++ line = line from rfl, every,
        List.reverse_reverse]
    · rw [terminated_append, terminated_singleton, List.reverse_append,
        List.reverse_append, List.takeWhile_append, every, if_pos rfl]
      simp
  unfold finalLine
  rw [stripped]
  cases whole : terminated newline lines ++ line with
  | nil => simp [kept] at whole
  | cons c rest => simp only [← whole, taken]

end Backwards

end Lines
