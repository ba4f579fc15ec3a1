import Urp.Library.Patterns

/-!
# Markers in a text

A marker is a name in brackets.  Replacing the matches of a pattern by markers
loses which markers were in the text before.  If the matches contain no
bracket, and something that no name contains, a substitution adds one marker
for each match and touches no other, and a text without the marker can be
recovered.
-/

namespace Patterns

variable {α : Type}

/-- The brackets and the characters of the names. -/
structure Brackets (α : Type) where
  opening : α
  closing : α
  isName : α → Bool
  apart : opening ≠ closing
  opening_outside : isName opening = false
  closing_outside : isName closing = false

namespace Brackets

variable (brackets : Brackets α)

def marker (name : List α) : List α :=
  brackets.opening :: (name ++ [brackets.closing])

def Name (name : List α) : Prop := ∀ c ∈ name, brackets.isName c = true

/-- The pattern's matches have no bracket and are no part of a name. -/
structure Spares (pattern : Pattern α) : Prop where
  opening : pattern.consumes brackets.opening = false
  closing : pattern.consumes brackets.closing = false
  foreign : pattern.Needs fun c => brackets.isName c = false

/-- The same of the found values. -/
structure Spared (parts : List (Token α)) : Prop where
  opening : ∀ value, .found value ∈ parts → brackets.opening ∉ value
  closing : ∀ value, .found value ∈ parts → brackets.closing ∉ value
  foreign : ∀ value, .found value ∈ parts →
    ∃ c ∈ value, brackets.isName c = false

end Brackets

section Substituting

variable {brackets : Brackets α} {isWord : α → Bool} {pattern : Pattern α}
  {name other : List α} {parts : List (Token α)}

theorem Brackets.Spares.tokens (spares : brackets.Spares pattern)
    (text : List α) : brackets.Spared (tokens isWord pattern text) where
  opening value member taken := by
    have consumed := consumes_of_found member taken
    rw [spares.opening] at consumed
    cases consumed
  closing value member taken := by
    have consumed := consumes_of_found member taken
    rw [spares.closing] at consumed
    cases consumed
  foreign _ member := needed_of_found spares.foreign member

theorem Brackets.Spared.tail {part : Token α}
    (spared : brackets.Spared (part :: parts)) : brackets.Spared parts where
  opening value member := spared.opening value (List.mem_cons_of_mem _ member)
  closing value member := spared.closing value (List.mem_cons_of_mem _ member)
  foreign value member := spared.foreign value (List.mem_cons_of_mem _ member)

theorem Brackets.Name.closing (named : brackets.Name name) :
    brackets.closing ∉ name := by
  intro member
  have inside := named _ member
  rw [brackets.closing_outside] at inside
  cases inside

theorem Brackets.Name.opening (named : brackets.Name name) :
    brackets.opening ∉ name ++ [brackets.closing] := by
  intro member
  rcases List.mem_append.mp member with inside | last
  · have inName := named _ inside
    rw [brackets.opening_outside] at inName
    cases inName
  · exact brackets.apart (List.mem_singleton.mp last)

/-- A match does not begin the rest of a marker. -/
theorem Brackets.Spared.not_prefix {value : List α} {rest : List α}
    (spared : brackets.Spared parts) (member : .found value ∈ parts)
    (named : brackets.Name name) :
    ¬ name ++ [brackets.closing] <+: value ++ rest := by
  intro begins
  have closing := spared.closing value member
  obtain ⟨c, taken, foreign⟩ := spared.foreign value member
  have whole : value <+: value ++ rest := List.prefix_append value rest
  rcases Nat.le_total (name ++ [brackets.closing]).length value.length with
    short | long
  · have inside := List.prefix_of_prefix_length_le begins whole short
    exact closing (inside.subset (by simp))
  · have inside := List.prefix_of_prefix_length_le whole begins long
    rcases List.mem_append.mp (inside.subset taken) with inName | last
    · rw [named c inName] at foreign
      cases foreign
    · rw [List.mem_singleton.mp last] at taken
      exact closing taken

theorem Brackets.Name.not_prefix (named : brackets.Name name) (text : List α) :
    ¬ name ++ [brackets.closing] <+: brackets.marker other ++ text := by
  intro begins
  have opening := named.opening
  rcases name with _ | ⟨c, rest⟩
  · have head := (List.cons_prefix_cons.mp begins).1
    exact brackets.apart head.symm
  · have head := (List.cons_prefix_cons.mp begins).1
    apply opening
    rw [head]
    exact List.mem_cons_self

/-- Substitution neither makes nor breaks the rest of a marker. -/
theorem Brackets.Spared.prefix_iff (spared : brackets.Spared parts)
    (named : brackets.Name name) :
    name ++ [brackets.closing] <+: source parts ↔
      name ++ [brackets.closing] <+:
        marked (brackets.marker other) parts := by
  induction name generalizing parts with
  | nil =>
      cases parts with
      | nil => simp [source, marked]
      | cons part rest =>
          cases part with
          | plain c =>
              simp [source, marked, Token.source, Token.marked,
                List.cons_prefix_cons]
          | found value =>
              constructor
              · intro begins
                exact absurd begins
                  (spared.not_prefix List.mem_cons_self named)
              · intro begins
                exact absurd begins (named.not_prefix _)
  | cons d name ih =>
      cases parts with
      | nil => simp [source, marked]
      | cons part rest =>
          cases part with
          | plain c =>
              have inner := ih spared.tail fun d member =>
                named d (List.mem_cons_of_mem _ member)
              simp only [source, marked, List.flatMap_cons, Token.source,
                Token.marked, List.cons_append, List.nil_append,
                List.cons_prefix_cons] at inner ⊢
              rw [inner]
          | found value =>
              constructor
              · intro begins
                exact absurd begins
                  (spared.not_prefix List.mem_cons_self named)
              · intro begins
                exact absurd begins (named.not_prefix _)

theorem Brackets.Name.prefix_iff (named : brackets.Name name)
    (otherNamed : brackets.Name other) (text : List α) :
    name ++ [brackets.closing] <+: other ++ brackets.closing :: text ↔
      name = other := by
  induction name generalizing other with
  | nil =>
      cases other with
      | nil => simp [List.cons_prefix_cons]
      | cons d other =>
          constructor
          · intro begins
            have head := (List.cons_prefix_cons.mp begins).1
            exact absurd (head ▸ List.mem_cons_self) otherNamed.closing
          · exact nofun
  | cons c name ih =>
      cases other with
      | nil =>
          constructor
          · intro begins
            have head := (List.cons_prefix_cons.mp begins).1
            exact absurd (head ▸ List.mem_cons_self) named.closing
          · exact nofun
      | cons d other =>
          have inner := @ih other
            (fun e member => named e (List.mem_cons_of_mem _ member))
            (fun e member => otherNamed e (List.mem_cons_of_mem _ member))
          rw [List.cons_append, List.cons_append, List.cons_prefix_cons, inner,
            List.cons.injEq]

/-! ## Counting -/

section Counting

variable [DecidableEq α]

/-- How often the word occurs in the text. -/
def count (word : List α) : List α → Nat
  | [] => 0
  | c :: rest =>
      (if word.isPrefixOf (c :: rest) then 1 else 0) + count word rest

theorem count_cons_of_ne {c : α} (different : c ≠ brackets.opening)
    (name text : List α) :
    count (brackets.marker name) (c :: text) =
      count (brackets.marker name) text := by
  have apart : (brackets.marker name).isPrefixOf (c :: text) = false := by
    rw [Brackets.marker, List.isPrefixOf, beq_false_of_ne (Ne.symm different),
      Bool.false_and]
  rw [count, apart]
  simp

theorem count_append_of_not_mem {value : List α}
    (absent : brackets.opening ∉ value) (name text : List α) :
    count (brackets.marker name) (value ++ text) =
      count (brackets.marker name) text := by
  induction value with
  | nil => rfl
  | cons c value ih =>
      rw [List.mem_cons, not_or] at absent
      rw [List.cons_append, count_cons_of_ne (Ne.symm absent.1), ih absent.2]

theorem count_marker (named : brackets.Name name)
    (otherNamed : brackets.Name other) (text : List α) :
    count (brackets.marker name) (brackets.marker other ++ text) =
      (if name = other then 1 else 0) +
        count (brackets.marker name) text := by
  have begins : (brackets.marker name).isPrefixOf
      (brackets.marker other ++ text) = true ↔ name = other := by
    rw [List.isPrefixOf_iff_prefix, Brackets.marker, Brackets.marker,
      List.cons_append, List.cons_prefix_cons, List.append_assoc,
      List.singleton_append, named.prefix_iff otherNamed]
    simp
  have tail := @count_append_of_not_mem _ brackets _ _ otherNamed.opening name
    text
  have unfolded : brackets.marker other ++ text =
      brackets.opening :: (other ++ [brackets.closing] ++ text) := rfl
  rw [unfolded] at begins ⊢
  rw [count, tail]
  by_cases same : name = other
  · rw [if_pos (begins.mpr same), if_pos same]
  · rw [if_neg fun begun => same (begins.mp begun), if_neg same]

/-- A substitution adds its own marker once for each match, and changes the
number of no other. -/
theorem Brackets.Spared.count_marked (spared : brackets.Spared parts)
    (named : brackets.Name name) (otherNamed : brackets.Name other) :
    count (brackets.marker name) (marked (brackets.marker other) parts) =
      count (brackets.marker name) (source parts) +
        if name = other then (values parts).length else 0 := by
  induction parts with
  | nil => simp [source, marked, values, count]
  | cons part rest ih =>
      have inner := ih spared.tail
      cases part with
      | plain c =>
          have begins := @Brackets.Spared.prefix_iff _ brackets name other _
            spared.tail named
          have alike : (brackets.marker name).isPrefixOf (c ::
                marked (brackets.marker other) rest) =
              (brackets.marker name).isPrefixOf (c :: source rest) := by
            rw [Bool.eq_iff_iff, List.isPrefixOf_iff_prefix,
              List.isPrefixOf_iff_prefix, Brackets.marker,
              List.cons_prefix_cons, List.cons_prefix_cons, begins]
          change count _ (c :: marked (brackets.marker other) rest) =
            count _ (c :: source rest) +
              if name = other then (values rest).length else 0
          rw [count, count, alike, inner, Nat.add_assoc]
      | found value =>
          have absent := spared.opening value List.mem_cons_self
          change count _ (brackets.marker other ++
              marked (brackets.marker other) rest) =
            count _ (value ++ source rest) +
              if name = other then (values rest).length + 1 else 0
          rw [count_marker named otherNamed, inner,
            count_append_of_not_mem absent]
          split <;> omega

theorem exists_infix_of_count {word text : List α}
    (occurs : count word text ≠ 0) : word <:+: text := by
  induction text with
  | nil => exact absurd rfl occurs
  | cons c rest ih =>
      rw [count] at occurs
      by_cases begins : (word.isPrefixOf (c :: rest)) = true
      · exact (List.isPrefixOf_iff_prefix.mp begins).isInfix
      · rw [if_neg begins, Nat.zero_add] at occurs
        exact (ih occurs).trans (List.suffix_cons c rest).isInfix

theorem count_ne_zero_of_inside {word text : List α} (nonempty : word ≠ [])
    (inside : word <:+: text) : count word text ≠ 0 := by
  induction text with
  | nil => exact absurd (List.infix_nil.mp inside) nonempty
  | cons c rest ih =>
      rw [count]
      rcases List.infix_cons_iff.mp inside with begins | later
      · rw [if_pos (List.isPrefixOf_iff_prefix.mpr begins)]
        omega
      · have occurs := ih later
        omega

/-! ## Recovering the text -/

/-- Two texts without the marker that a substitution makes equal, with the same
matches, are equal. -/
theorem Brackets.Spared.source_inj {parts others : List (Token α)}
    (spared : brackets.Spared parts) (otherSpared : brackets.Spared others)
    (named : brackets.Name name)
    (free : count (brackets.marker name) (source parts) = 0)
    (otherFree : count (brackets.marker name) (source others) = 0)
    (same : marked (brackets.marker name) parts =
      marked (brackets.marker name) others)
    (matched : values parts = values others) :
    source parts = source others := by
  have clash : ∀ {c : α} {first second : List (Token α)},
      brackets.Spared first →
      count (brackets.marker name) (c :: source first) = 0 →
      c :: marked (brackets.marker name) first ≠
        brackets.marker name ++ marked (brackets.marker name) second := by
    intro c first second spared free same
    rw [Brackets.marker, List.cons_append] at same
    obtain ⟨rfl, rest⟩ := List.cons.inj same
    have begins : name ++ [brackets.closing] <+: source first := by
      rw [@Brackets.Spared.prefix_iff _ brackets name name _ spared named,
        Brackets.marker, rest]
      exact List.prefix_append _ _
    have occurs : (brackets.marker name).isPrefixOf
        (brackets.opening :: source first) = true := by
      rw [List.isPrefixOf_iff_prefix, Brackets.marker, List.cons_prefix_cons]
      exact ⟨rfl, begins⟩
    rw [count, if_pos occurs] at free
    omega
  induction parts generalizing others with
  | nil =>
      cases others with
      | nil => rfl
      | cons part rest => cases part <;> cases same
  | cons part rest ih =>
      cases others with
      | nil => cases part <;> cases same
      | cons otherPart otherRest =>
          cases part with
          | plain c =>
              change count _ (c :: source rest) = 0 at free
              cases otherPart with
              | plain d =>
                  change count _ (d :: source otherRest) = 0 at otherFree
                  obtain ⟨rfl, tails⟩ := List.cons.inj same
                  rw [count] at free otherFree
                  have inner := ih spared.tail otherSpared.tail (by omega)
                    (by omega) tails matched
                  change c :: source rest = c :: source otherRest
                  rw [inner]
              | found value => exact absurd same (clash spared.tail free)
          | found value =>
              have absent := spared.opening value List.mem_cons_self
              cases otherPart with
              | plain d =>
                  exact absurd same.symm (clash otherSpared.tail otherFree)
              | found otherValue =>
                  have otherAbsent :=
                    otherSpared.opening otherValue List.mem_cons_self
                  change count _ (value ++ source rest) = 0 at free
                  change count _ (otherValue ++ source otherRest) = 0
                    at otherFree
                  rw [count_append_of_not_mem absent] at free
                  rw [count_append_of_not_mem otherAbsent] at otherFree
                  obtain ⟨rfl, left⟩ := List.cons.inj matched
                  have tails := List.append_cancel_left same
                  have inner := ih spared.tail otherSpared.tail free otherFree
                    tails left
                  change value ++ source rest = value ++ source otherRest
                  rw [inner]

end Counting

/-- A marker holds no match. -/
theorem Brackets.Spared.values_marker (spared : brackets.Spared parts)
    (named : brackets.Name name) (whole : source parts = brackets.marker name) :
    values parts = [] := by
  apply List.filterMap_eq_nil_iff.mpr
  intro part member
  cases part with
  | plain c => rfl
  | found value =>
      exfalso
      obtain ⟨c, taken, foreign⟩ := spared.foreign value member
      have inside : c ∈ brackets.marker name := by
        rw [← whole]
        exact List.mem_flatMap.mpr ⟨.found value, member, taken⟩
      rcases List.mem_cons.mp inside with rfl | inside
      · exact spared.opening value member taken
      · rcases List.mem_append.mp inside with inName | last
        · rw [named c inName] at foreign
          cases foreign
        · rw [List.mem_singleton.mp last] at taken
          exact spared.closing value member taken

/-- Without matches nothing was replaced. -/
theorem source_of_no_values {marker : List α} {parts : List (Token α)}
    (none : values parts = []) : source parts = marked marker parts := by
  induction parts with
  | nil => rfl
  | cons part rest ih =>
      cases part with
      | plain c =>
          change c :: source rest = c :: marked marker rest
          rw [ih none]
      | found value => cases none

end Substituting

end Patterns
