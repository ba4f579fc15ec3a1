import Mathlib.Data.List.Basic
import Mathlib.Data.Option.Basic

/-!
# Patterns and their matches in a text

Regular expressions with word boundaries.  A repetition takes as much as it
can and gives back what the rest of the pattern needs; the first way to match
is the match.  Scanning a text cuts it into the matches of a pattern, from left
to right and without overlaps, and the characters in between.
-/

namespace Patterns

variable {α : Type}

inductive Pattern (α : Type) where
  | nothing
  | boundary
  | one (accepts : α → Bool)
  | upTo (most : Nat) (accepts : α → Bool)
  | many (accepts : α → Bool)
  | andThen (first second : Pattern α)

namespace Pattern

def times (pattern : Pattern α) : Nat → Pattern α
  | 0 => .nothing
  | count + 1 => .andThen pattern (times pattern count)

/-- One or more. -/
def some (accepts : α → Bool) : Pattern α :=
  .andThen (.one accepts) (.many accepts)

def sequence (patterns : List (Pattern α)) : Pattern α :=
  patterns.foldr .andThen .nothing

end Pattern

/-- The ways to take up to `most` accepted characters, the longest first. -/
def greedy (accepts : α → Bool) : Nat → List α → List (List α × List α)
  | 0, text => [([], text)]
  | _ + 1, [] => [([], [])]
  | most + 1, c :: rest =>
      if accepts c then
        (greedy accepts most rest).map (fun split => (c :: split.1, split.2)) ++
          [([], c :: rest)]
      else [([], c :: rest)]

section Matching

variable (isWord : α → Bool)

/-- A word begins or ends between the previous character and the text. -/
def isBoundary (previous : Option α) (text : List α) : Bool :=
  previous.any isWord != text.head?.any isWord

/-- The ways to match a beginning of the text, in the order of preference, as
the matched part and the rest. -/
def Pattern.splits :
    Pattern α → Option α → List α → List (List α × List α)
  | .nothing, _, text => [([], text)]
  | .boundary, previous, text =>
      if isBoundary isWord previous text then [([], text)] else []
  | .one _, _, [] => []
  | .one accepts, _, c :: rest => if accepts c then [([c], rest)] else []
  | .upTo most accepts, _, text => greedy accepts most text
  | .many accepts, _, text => greedy accepts text.length text
  | .andThen first second, previous, text =>
      (first.splits previous text).flatMap fun early =>
        (second.splits (early.1.getLast?.or previous) early.2).map fun late =>
          (early.1 ++ late.1, late.2)

/-- A part of a scanned text. -/
inductive Token (α : Type) where
  | plain (c : α)
  | found (value : List α)

/-- Cut a text at the matches of the pattern; an empty match is none. -/
def scan (pattern : Pattern α) : Nat → Option α → List α → List (Token α)
  | 0, _, _ => []
  | _ + 1, _, [] => []
  | fuel + 1, previous, c :: rest =>
      match (pattern.splits isWord previous (c :: rest)).head? with
      | some (d :: value, after) =>
          .found (d :: value) :: scan pattern fuel (d :: value).getLast? after
      | _ => .plain c :: scan pattern fuel (some c) rest

def tokens (pattern : Pattern α) (text : List α) : List (Token α) :=
  scan isWord pattern text.length none text

end Matching

/-! ## What a match takes -/

theorem greedy_split {accepts : α → Bool} {most : Nat} {text : List α}
    {split : List α × List α} (member : split ∈ greedy accepts most text) :
    split.1 ++ split.2 = text ∧ ∀ c ∈ split.1, accepts c = true := by
  induction most generalizing text split with
  | zero =>
      rw [greedy, List.mem_singleton] at member
      subst member
      exact ⟨rfl, nofun⟩
  | succ most ih =>
      cases text with
      | nil =>
          rw [greedy, List.mem_singleton] at member
          subst member
          exact ⟨rfl, nofun⟩
      | cons c rest =>
          rw [greedy] at member
          split at member
          · rename_i accepted
            rcases List.mem_append.mp member with longer | shortest
            · obtain ⟨inner, inside, rfl⟩ := List.mem_map.mp longer
              obtain ⟨whole, all⟩ := ih inside
              refine ⟨by rw [List.cons_append, whole], ?_⟩
              intro d listed
              rcases List.mem_cons.mp listed with rfl | later
              · exact accepted
              · exact all d later
            · rw [List.mem_singleton.mp shortest]
              exact ⟨rfl, nofun⟩
          · rw [List.mem_singleton.mp member]
            exact ⟨rfl, nofun⟩

namespace Pattern

/-- A character that a match may contain. -/
def consumes : Pattern α → α → Bool
  | .nothing, _ => false
  | .boundary, _ => false
  | .one accepts, c => accepts c
  | .upTo _ accepts, c => accepts c
  | .many accepts, c => accepts c
  | .andThen first second, c => first.consumes c || second.consumes c

/-- Every match contains such a character. -/
def Needs (good : α → Prop) : Pattern α → Prop
  | .one accepts => ∀ c, accepts c = true → good c
  | .andThen first second => first.Needs good ∨ second.Needs good
  | _ => False

variable {isWord : α → Bool} {pattern : Pattern α} {previous : Option α}
  {text : List α} {split : List α × List α}

theorem splits_append (member : split ∈ pattern.splits isWord previous text) :
    split.1 ++ split.2 = text := by
  induction pattern generalizing previous text split with
  | nothing =>
      rw [List.mem_singleton.mp member]
      rfl
  | boundary =>
      rw [splits] at member
      split at member
      · rw [List.mem_singleton.mp member]
        rfl
      · cases member
  | one accepts =>
      cases text with
      | nil => cases member
      | cons c rest =>
          rw [splits] at member
          split at member
          · rw [List.mem_singleton.mp member]
            rfl
          · cases member
  | upTo most accepts => exact (greedy_split member).1
  | many accepts => exact (greedy_split member).1
  | andThen first second firstIh secondIh =>
      obtain ⟨early, before, inside⟩ := List.mem_flatMap.mp member
      obtain ⟨late, after, rfl⟩ := List.mem_map.mp inside
      rw [List.append_assoc, secondIh after, firstIh before]

theorem consumes_of_mem (member : split ∈ pattern.splits isWord previous text)
    {c : α} (taken : c ∈ split.1) : pattern.consumes c = true := by
  induction pattern generalizing previous text split with
  | nothing =>
      rw [List.mem_singleton.mp member] at taken
      cases taken
  | boundary =>
      rw [splits] at member
      split at member
      · rw [List.mem_singleton.mp member] at taken
        cases taken
      · cases member
  | one accepts =>
      cases text with
      | nil => cases member
      | cons d rest =>
          rw [splits] at member
          split at member
          · rename_i accepted
            rw [List.mem_singleton.mp member] at taken
            rw [List.mem_singleton.mp taken]
            exact accepted
          · cases member
  | upTo most accepts => exact (greedy_split member).2 c taken
  | many accepts => exact (greedy_split member).2 c taken
  | andThen first second firstIh secondIh =>
      obtain ⟨early, before, inside⟩ := List.mem_flatMap.mp member
      obtain ⟨late, after, rfl⟩ := List.mem_map.mp inside
      rw [consumes, Bool.or_eq_true]
      rcases List.mem_append.mp taken with first | second
      · exact .inl (firstIh before first)
      · exact .inr (secondIh after second)

theorem exists_of_needs {good : α → Prop} (needs : pattern.Needs good)
    (member : split ∈ pattern.splits isWord previous text) :
    ∃ c ∈ split.1, good c := by
  induction pattern generalizing previous text split with
  | nothing => cases needs
  | boundary => cases needs
  | upTo most accepts => cases needs
  | many accepts => cases needs
  | one accepts =>
      cases text with
      | nil => cases member
      | cons c rest =>
          rw [splits] at member
          split at member
          · rename_i accepted
            rw [List.mem_singleton.mp member]
            exact ⟨c, List.mem_singleton.mpr rfl, needs c accepted⟩
          · cases member
  | andThen first second firstIh secondIh =>
      obtain ⟨early, before, inside⟩ := List.mem_flatMap.mp member
      obtain ⟨late, after, rfl⟩ := List.mem_map.mp inside
      rcases needs with inFirst | inSecond
      · obtain ⟨c, taken, holds⟩ := firstIh inFirst before
        exact ⟨c, List.mem_append_left _ taken, holds⟩
      · obtain ⟨c, taken, holds⟩ := secondIh inSecond after
        exact ⟨c, List.mem_append_right _ taken, holds⟩

/-- Only whether the previous character belongs to a word matters. -/
theorem splits_previous {other : Option α}
    (alike : previous.any isWord = other.any isWord) :
    pattern.splits isWord previous text = pattern.splits isWord other text := by
  induction pattern generalizing previous other text with
  | nothing => rfl
  | boundary =>
      unfold splits isBoundary
      rw [alike]
  | one accepts => cases text <;> rfl
  | upTo most accepts => rfl
  | many accepts => rfl
  | andThen first second firstIh secondIh =>
      simp only [splits]
      rw [firstIh alike]
      apply List.flatMap_congr
      intro early _
      have same : (early.1.getLast?.or previous).any isWord =
          (early.1.getLast?.or other).any isWord := by
        cases early.1.getLast? with
        | none => exact alike
        | some c => rfl
      rw [secondIh same]

end Pattern

/-! ## Separators

A character that belongs to no word and that no match contains cuts the text
for the pattern. -/

section Separated

variable {isWord : α → Bool} {pattern : Pattern α} {stop : α}

def addRest (tail : List α) (split : List α × List α) : List α × List α :=
  (split.1, split.2 ++ tail)

/-- Repetitions stop at a character that they do not accept. -/
theorem greedy_separated {accepts : α → Bool} (refused : accepts stop = false)
    {most more : Nat} {text rest : List α}
    (enough : most = more ∨ text.length ≤ most ∧ text.length ≤ more) :
    greedy accepts most (text ++ stop :: rest) =
      (greedy accepts more text).map (addRest (stop :: rest)) := by
  induction text generalizing most more with
  | nil =>
      rw [List.nil_append]
      cases most <;> cases more <;> simp [greedy, refused, addRest]
  | cons c text ih =>
      cases most with
      | zero =>
          obtain rfl : more = 0 := by
            simp only [List.length_cons] at enough
            omega
          rfl
      | succ most =>
          cases more with
          | zero =>
              simp only [List.length_cons] at enough
              omega
          | succ more =>
              have inner := @ih most more (by
                simp only [List.length_cons] at enough
                omega)
              rw [List.cons_append, greedy, greedy, inner]
              split
              · rw [List.map_append, List.map_map, List.map_map]
                rfl
              · rfl

theorem Pattern.splits_separated (between : isWord stop = false)
    (refused : pattern.consumes stop = false) (previous : Option α)
    (text rest : List α) :
    pattern.splits isWord previous (text ++ stop :: rest) =
      (pattern.splits isWord previous text).map (addRest (stop :: rest)) := by
  induction pattern generalizing previous text with
  | nothing => rfl
  | boundary =>
      have same : isBoundary isWord previous (text ++ stop :: rest) =
          isBoundary isWord previous text := by
        cases text with
        | nil => simp [isBoundary, between]
        | cons c text => rfl
      unfold splits
      rw [same]
      split <;> rfl
  | one accepts =>
      cases text with
      | nil =>
          have refused : accepts stop = false := refused
          simp [splits, refused]
      | cons c text =>
          simp only [List.cons_append, splits]
          split <;> rfl
  | upTo most accepts => exact greedy_separated refused (.inl rfl)
  | many accepts =>
      exact greedy_separated refused (.inr ⟨by simp, Nat.le_refl _⟩)
  | andThen first second firstIh secondIh =>
      rw [Pattern.consumes, Bool.or_eq_false_iff] at refused
      simp only [splits]
      rw [firstIh refused.1, List.flatMap_map, List.map_flatMap]
      apply List.flatMap_congr
      intro early _
      simp only [addRest]
      rw [secondIh refused.2, List.map_map, List.map_map]
      rfl

/-- More fuel than characters makes no difference. -/
theorem scan_fuel {fuel more : Nat} {previous : Option α} {text : List α}
    (enough : text.length ≤ fuel) (plenty : text.length ≤ more) :
    scan isWord pattern fuel previous text =
      scan isWord pattern more previous text := by
  induction fuel generalizing more previous text with
  | zero =>
      obtain rfl := List.length_eq_zero_iff.mp (Nat.le_zero.mp enough)
      cases more <;> rfl
  | succ fuel ih =>
      cases text with
      | nil => cases more <;> rfl
      | cons c rest =>
          cases more with
          | zero => cases plenty
          | succ more =>
              rw [List.length_cons] at enough plenty
              rw [scan, scan]
              split
              · rename_i d value after found
                have whole := Pattern.splits_append
                  (List.mem_of_head? found)
                have lengths := congrArg List.length whole
                simp only [List.length_append, List.length_cons] at lengths
                rw [@ih more _ after (by omega) (by omega)]
              · rw [@ih more _ rest (by omega) (by omega)]

theorem scan_previous {fuel : Nat} {previous other : Option α} {text : List α}
    (alike : previous.any isWord = other.any isWord) :
    scan isWord pattern fuel previous text =
      scan isWord pattern fuel other text := by
  cases fuel with
  | zero => rfl
  | succ fuel =>
      cases text with
      | nil => rfl
      | cons c rest => rw [scan, scan, Pattern.splits_previous alike]

/-- No match begins with a character that the pattern refuses. -/
theorem scan_refused {c : α} (refused : pattern.consumes c = false)
    (fuel : Nat) (previous : Option α) (rest : List α) :
    scan isWord pattern (fuel + 1) previous (c :: rest) =
      .plain c :: scan isWord pattern fuel (some c) rest := by
  rw [scan]
  split
  · rename_i d value after found
    have member := List.mem_of_head? found
    have whole := Pattern.splits_append member
    rw [List.cons_append] at whole
    cases whole
    have taken := Pattern.consumes_of_mem member List.mem_cons_self
    rw [refused] at taken
    cases taken
  · rfl

/-- The parts of the text before and after the separator are scanned on their
own. -/
theorem scan_separated (between : isWord stop = false)
    (refused : pattern.consumes stop = false) {fuel : Nat}
    {previous : Option α} {text rest : List α}
    (enough : (text ++ stop :: rest).length ≤ fuel) :
    scan isWord pattern fuel previous (text ++ stop :: rest) =
      scan isWord pattern text.length previous text ++
        .plain stop :: tokens isWord pattern rest := by
  induction fuel generalizing previous text with
  | zero => simp at enough
  | succ fuel ih =>
      cases text with
      | nil =>
          have restEnough : rest.length ≤ fuel := by simpa using enough
          have alike : (some stop).any isWord = (none : Option α).any isWord := by
            simpa using between
          rw [List.nil_append, scan_refused refused, scan_previous alike,
            scan_fuel restEnough (Nat.le_refl _)]
          rfl
      | cons c text =>
          have textEnough : (text ++ stop :: rest).length ≤ fuel := by
            simpa using enough
          rw [List.cons_append, List.length_cons, scan, scan,
            ← List.cons_append, Pattern.splits_separated between refused,
            List.head?_map]
          rcases found : (pattern.splits isWord previous (c :: text)).head? with
            _ | ⟨_ | ⟨d, value⟩, after⟩
          · simp only [Option.map_none, List.cons_append, ih textEnough]
          · simp only [Option.map_some, addRest, List.cons_append,
              ih textEnough]
          · have whole := Pattern.splits_append (List.mem_of_head? found)
            have lengths := congrArg List.length whole
            simp only [List.length_append, List.length_cons] at lengths textEnough
            have afterEnough : (after ++ stop :: rest).length ≤ fuel := by
              simp only [List.length_append, List.length_cons]
              omega
            have shorter := @scan_fuel _ isWord pattern text.length after.length
              (d :: value).getLast? after (by omega) (Nat.le_refl _)
            simp only [Option.map_some, addRest, List.cons_append,
              ih afterEnough, shorter]

theorem tokens_separated (between : isWord stop = false)
    (refused : pattern.consumes stop = false) (text rest : List α) :
    tokens isWord pattern (text ++ stop :: rest) =
      tokens isWord pattern text ++
        .plain stop :: tokens isWord pattern rest :=
  scan_separated between refused (Nat.le_refl _)

end Separated

/-! ## The parts of a text -/

def Token.source : Token α → List α
  | .plain c => [c]
  | .found value => value

/-- The part with the marker in the place of a match. -/
def Token.marked (marker : List α) : Token α → List α
  | .plain c => [c]
  | .found _ => marker

def Token.value? : Token α → Option (List α)
  | .plain _ => none
  | .found value => some value

/-- The scanned text. -/
def source (parts : List (Token α)) : List α := parts.flatMap Token.source

/-- The text with its matches replaced. -/
def marked (marker : List α) (parts : List (Token α)) : List α :=
  parts.flatMap (Token.marked marker)

/-- The replaced matches, in their order. -/
def values (parts : List (Token α)) : List (List α) :=
  parts.filterMap Token.value?

section Parts

variable {isWord : α → Bool} {pattern : Pattern α}

theorem source_scan {fuel : Nat} {previous : Option α} {text : List α}
    (enough : text.length ≤ fuel) :
    source (scan isWord pattern fuel previous text) = text := by
  induction fuel generalizing previous text with
  | zero =>
      obtain rfl := List.length_eq_zero_iff.mp (Nat.le_zero.mp enough)
      rfl
  | succ fuel ih =>
      cases text with
      | nil => rfl
      | cons c rest =>
          rw [List.length_cons] at enough
          rw [scan]
          split
          · rename_i d value after found
            have whole := Pattern.splits_append (List.mem_of_head? found)
            have lengths := congrArg List.length whole
            simp only [List.length_append, List.length_cons] at lengths
            rw [source, List.flatMap_cons, ← source, ih (by omega)]
            exact whole
          · rw [source, List.flatMap_cons, ← source, ih (by omega)]
            rfl

@[simp] theorem source_tokens (text : List α) :
    source (tokens isWord pattern text) = text := source_scan (Nat.le_refl _)

/-- A found value is a match. -/
theorem split_of_found {fuel : Nat} {previous : Option α} {text value : List α}
    (member : .found value ∈ scan isWord pattern fuel previous text) :
    ∃ previous text rest,
      (value, rest) ∈ pattern.splits isWord previous text := by
  induction fuel generalizing previous text with
  | zero => cases member
  | succ fuel ih =>
      cases text with
      | nil => cases member
      | cons c rest =>
          rw [scan] at member
          split at member
          · rename_i d first after found
            rcases List.mem_cons.mp member with same | later
            · cases same
              exact ⟨previous, c :: rest, after, List.mem_of_head? found⟩
            · exact ih later
          · rcases List.mem_cons.mp member with same | later
            · cases same
            · exact ih later

/-- Every match of the pattern passes the test of its characters. -/
theorem consumes_of_found {text value : List α}
    (member : .found value ∈ tokens isWord pattern text) {c : α}
    (taken : c ∈ value) : pattern.consumes c = true := by
  obtain ⟨_, _, _, split⟩ := split_of_found member
  exact Pattern.consumes_of_mem split taken

theorem needed_of_found {good : α → Prop} (needs : pattern.Needs good)
    {text value : List α}
    (member : .found value ∈ tokens isWord pattern text) :
    ∃ c ∈ value, good c := by
  obtain ⟨_, _, _, split⟩ := split_of_found member
  exact Pattern.exists_of_needs needs split

end Parts

end Patterns
