import Urp.Library.Markers
import Urp.Python.Value

/-!
# Log templates

`extract_log_template` replaces identifiers, addresses and numbers in a line by
placeholders, one pattern after another, and returns what it replaced.
-/

namespace Urp

open Patterns

/-! ## The patterns -/

/-- The Unicode tables behind `\w` and `\d`; on ASCII they are known. -/
structure CharacterClasses where
  isWord : Char → Bool
  isDigit : Char → Bool
  isWord_ascii : ∀ c, c.toNat < 128 → isWord c = (c.isAlphanum || c == '_')
  isDigit_ascii : ∀ c, c.toNat < 128 → isDigit c = c.isDigit

/-- `[0-9a-f]` under `re.I`. -/
def isHexClass (c : Char) : Bool :=
  c.isDigit || ('a' ≤ c && c ≤ 'f') || ('A' ≤ c && c ≤ 'F')

/-- `x` under `re.I`. -/
def isHexMark (c : Char) : Bool := c == 'x' || c == 'X'

inductive PatternName where
  | uuid
  | ip
  | hex
  | number
  deriving DecidableEq

namespace PatternName

def text : PatternName → String
  | .uuid => "uuid"
  | .ip => "ip"
  | .hex => "hex"
  | .number => "number"

def exactly (c : Char) : Pattern Char := .one (· == c)

variable (classes : CharacterClasses)

/-- `\d{1,3}`. -/
def shortNumber : Pattern Char :=
  .andThen (.one classes.isDigit) (.upTo 2 classes.isDigit)

def pattern : PatternName → Pattern Char
  | .uuid => .sequence
      [.boundary, .times (.one isHexClass) 8, exactly '-',
        .times (.one isHexClass) 4, exactly '-',
        .times (.one isHexClass) 4, exactly '-',
        .times (.one isHexClass) 4, exactly '-',
        .times (.one isHexClass) 12, .boundary]
  | .ip => .sequence
      [.boundary, .times (.andThen (shortNumber classes) (exactly '.')) 3,
        shortNumber classes, .boundary]
  | .hex => .sequence
      [.boundary, exactly '0', .one isHexMark, .some isHexClass, .boundary]
  | .number => .sequence [.boundary, .some classes.isDigit, .boundary]

end PatternName

/-- The order of `PATTERNS`. -/
def patternNames : List PatternName := [.uuid, .ip, .hex, .number]

/-! ## The extraction -/

structure LogVariable where
  name : String
  value : String
  deriving DecidableEq

/-- `variableList` is the field `variables`. -/
structure LogTemplate where
  template : String
  variableList : List LogVariable := []
  deriving DecidableEq

def angleBrackets : Brackets Char where
  opening := '<'
  closing := '>'
  isName c := c.isLower
  apart := by decide
  opening_outside := by decide
  closing_outside := by decide

/-- `<name>`. -/
def placeholder (name : PatternName) : List Char :=
  angleBrackets.marker name.text.toList

section Extraction

variable (classes : CharacterClasses)

/-- The line cut at what the pattern of the name finds. -/
def found (name : PatternName) (line : List Char) : List (Token Char) :=
  tokens classes.isWord (name.pattern classes) line

def variableOf (name : PatternName) (value : List Char) : LogVariable :=
  ⟨name.text, String.ofList value⟩

/-- One round of the loop: `pattern.sub(repl, templated)`. -/
def substitutePattern (state : List LogVariable × List Char)
    (name : PatternName) : List LogVariable × List Char :=
  let parts := found classes name state.2
  (state.1 ++ (values parts).map (variableOf name),
    marked (placeholder name) parts)

def extractLogTemplate (line : String) : LogTemplate :=
  let final := patternNames.foldl (substitutePattern classes) ([], line.toList)
  { template := String.ofList final.2, variableList := final.1 }

end Extraction

/-! ## What the patterns take -/

section Patterns

variable {classes : CharacterClasses} {name : PatternName}

theorem text_inj {first second : PatternName}
    (same : first.text = second.text) : first = second := by
  revert same
  cases first <;> cases second <;> decide

theorem named (name : PatternName) :
    angleBrackets.Name name.text.toList := by
  have lower : name.text.toList.all Char.isLower = true := by
    cases name <;> decide
  exact fun c member => List.all_eq_true.mp lower c member

theorem isLower_ranges {c : Char} (lower : c.isLower = true) :
    c.toNat < 128 ∧ c.isDigit = false := by
  rw [Python.isLower_iff] at lower
  refine ⟨by omega, ?_⟩
  simp only [Char.isDigit, Bool.and_eq_false_iff, decide_eq_false_iff_not,
    UInt32.le_iff_toNat_le, ge_iff_le]
  change ¬ 48 ≤ c.toNat ∨ ¬ c.toNat ≤ 57
  omega

/-- A character that no pattern takes. -/
theorem refused {c : Char} (ascii : c.toNat < 128)
    (digit : isHexClass c = false) (mark : isHexMark c = false)
    (punctuation : c ≠ '-' ∧ c ≠ '.') (name : PatternName) :
    (name.pattern classes).consumes c = false := by
  have notDigit : c.isDigit = false := by
    simp only [isHexClass, Bool.or_eq_false_iff] at digit
    exact digit.1.1
  have notZero : c ≠ '0' := by
    rintro rfl
    cases notDigit
  have unicode := (classes.isDigit_ascii c ascii).trans notDigit
  cases name <;>
    simp [PatternName.pattern, Pattern.sequence, Pattern.consumes,
      Pattern.times, PatternName.exactly, PatternName.shortNumber,
      Pattern.some, digit, mark, punctuation, notZero, unicode]

theorem foreign (name : PatternName) : (name.pattern classes).Needs
    fun c => angleBrackets.isName c = false := by
  have exact : ∀ {c d : Char}, c.isLower = false → (d == c) = true →
      d.isLower = false := by
    intro c d lower same
    rw [beq_iff_eq.mp same]
    exact lower
  cases name with
  | uuid => exact .inr (.inr (.inl fun c => exact (by decide)))
  | ip => exact .inr (.inl (.inl (.inr fun c => exact (by decide))))
  | hex => exact .inr (.inl fun c => exact (by decide))
  | number =>
      refine .inr (.inl (.inl fun c digit => ?_))
      by_contra lower
      have range := isLower_ranges (by simpa [angleBrackets] using lower)
      rw [classes.isDigit_ascii c range.1, range.2] at digit
      cases digit

theorem spares (name : PatternName) :
    angleBrackets.Spares (name.pattern classes) where
  opening := refused (by decide) (by decide) (by decide) (by decide) name
  closing := refused (by decide) (by decide) (by decide) (by decide) name
  foreign := foreign name

theorem spared (name : PatternName) (line : List Char) :
    angleBrackets.Spared (found classes name line) := (spares name).tokens line

end Patterns

/-! ## One pattern after another -/

section Rounds

variable (classes : CharacterClasses)

/-- The variables and the template after the rounds of these patterns. -/
def rounds (names : List PatternName) (line : List Char) :
    List LogVariable × List Char :=
  names.foldl (substitutePattern classes) ([], line)

/-- The line with what these patterns find replaced. -/
def replaced (names : List PatternName) (line : List Char) : List Char :=
  names.foldl (fun line name => marked (placeholder name)
    (found classes name line)) line

/-- The line holds the literal text `<name>`. -/
def HasPlaceholder (name : PatternName) (line : String) : Prop :=
  placeholder name <:+: line.toList

/-- With the finds of the earlier patterns replaced, the pattern finds
something in the line. -/
def HasVariable (name : PatternName) (line : String) : Prop :=
  values (found classes name (replaced classes
    (patternNames.takeWhile (· ≠ name)) line.toList)) ≠ []

/-- No other line has the same template and variables. -/
def Recoverable (line : String) : Prop :=
  ∀ other, extractLogTemplate classes other = extractLogTemplate classes line →
    other = line

variable {classes} {name : PatternName} {names : List PatternName}
  {line other : List Char}

theorem foldl_substitute (names : List PatternName)
    (before : List LogVariable) (line : List Char) :
    names.foldl (substitutePattern classes) (before, line) =
      (before ++ (rounds classes names line).1,
        (rounds classes names line).2) := by
  unfold rounds
  induction names generalizing before line with
  | nil => simp
  | cons name rest ih =>
      rw [List.foldl_cons, List.foldl_cons]
      simp only [substitutePattern]
      rw [ih, ih ([] ++ _)]
      simp

theorem rounds_cons (name : PatternName) (names : List PatternName)
    (line : List Char) :
    let parts := found classes name line
    let later := rounds classes names (marked (placeholder name) parts)
    rounds classes (name :: names) line =
      ((values parts).map (variableOf name) ++ later.1, later.2) := by
  dsimp only
  rw [rounds, List.foldl_cons]
  simp only [substitutePattern, List.nil_append]
  rw [foldl_substitute]

theorem name_of_mem_rounds {row : LogVariable}
    (member : row ∈ (rounds classes names line).1) :
    ∃ name ∈ names, row.name = name.text := by
  induction names generalizing line with
  | nil => cases member
  | cons name rest ih =>
      rw [rounds_cons] at member
      rcases List.mem_append.mp member with own | later
      · obtain ⟨value, -, rfl⟩ := List.mem_map.mp own
        exact ⟨name, List.mem_cons_self, rfl⟩
      · obtain ⟨other, inside, same⟩ := ih later
        exact ⟨other, List.mem_cons_of_mem _ inside, same⟩

/-- The rows of the first round are those with its name. -/
theorem filter_rounds_cons (fresh : name ∉ names) (line : List Char) :
    (rounds classes (name :: names) line).1.filter (·.name == name.text) =
      (values (found classes name line)).map (variableOf name) := by
  rw [rounds_cons, List.filter_append]
  have own : ((values (found classes name line)).map
      (variableOf name)).filter (·.name == name.text) =
        (values (found classes name line)).map (variableOf name) := by
    apply List.filter_eq_self.mpr
    intro row member
    obtain ⟨value, -, rfl⟩ := List.mem_map.mp member
    exact beq_self_eq_true _
  have later : (rounds classes names
      (marked (placeholder name) (found classes name line))).1.filter
        (·.name == name.text) = [] := by
    apply List.filter_eq_nil_iff.mpr
    intro row member same
    obtain ⟨other, inside, named⟩ := name_of_mem_rounds member
    rw [beq_iff_eq, named] at same
    exact fresh (text_inj same ▸ inside)
  rw [own, later, List.append_nil]

theorem variableOf_injective (name : PatternName) :
    Function.Injective (variableOf name) := by
  intro first second same
  exact String.ofList_inj.mp (LogVariable.mk.inj same).2

theorem toList_text_inj {first second : PatternName} :
    first.text.toList = second.text.toList ↔ first = second := by
  constructor
  · exact fun same => text_inj (String.toList_inj.mp same)
  · rintro rfl
    rfl

theorem takeWhile_of_ne {other : PatternName} (different : other ≠ name)
    (names : List PatternName) :
    (other :: names).takeWhile (· ≠ name) =
      other :: names.takeWhile (· ≠ name) := by
  rw [List.takeWhile_cons_of_pos (by simpa using different)]

/-- The pattern of a name finds something exactly if a row has the name. -/
theorem finds_iff (distinct : names.Nodup) (listed : name ∈ names) :
    values (found classes name
        (replaced classes (names.takeWhile (· ≠ name)) line)) ≠ [] ↔
      ∃ row ∈ (rounds classes names line).1, row.name = name.text := by
  induction names generalizing line with
  | nil => cases listed
  | cons first rest ih =>
      obtain ⟨fresh, distinct⟩ := List.nodup_cons.mp distinct
      rw [rounds_cons]
      by_cases same : first = name
      · subst same
        rw [List.takeWhile_cons_of_neg (by simp)]
        change values (found classes first line) ≠ [] ↔ _
        constructor
        · intro some
          obtain ⟨value, member⟩ := List.exists_mem_of_ne_nil _ some
          exact ⟨variableOf first value,
            List.mem_append_left _ (List.mem_map_of_mem member), rfl⟩
        · rintro ⟨row, member, named⟩ none
          rw [none] at member
          obtain ⟨other, inside, otherNamed⟩ := name_of_mem_rounds member
          rw [named] at otherNamed
          exact fresh (text_inj otherNamed ▸ inside)
      · have inside : name ∈ rest :=
          (List.mem_cons.mp listed).resolve_left (Ne.symm same)
        rw [takeWhile_of_ne same]
        change values (found classes name (replaced classes
          (rest.takeWhile (· ≠ name)) (marked (placeholder first)
            (found classes first line)))) ≠ [] ↔ _
        rw [ih distinct inside]
        constructor
        · rintro ⟨row, member, named⟩
          exact ⟨row, List.mem_append_right _ member, named⟩
        · rintro ⟨row, member, named⟩
          rcases List.mem_append.mp member with own | later
          · obtain ⟨value, -, rfl⟩ := List.mem_map.mp own
            exact absurd (text_inj named) same
          · exact ⟨row, later, named⟩

/-- A line is determined by its template and its variables if each pattern
finds nothing in it or does not find its placeholder in it already. -/
theorem line_eq_of_rounds (distinct : names.Nodup)
    (same : rounds classes names line = rounds classes names other)
    (clear : ∀ name ∈ names,
      count (placeholder name) line = 0 ∨
        values (found classes name
          (replaced classes (names.takeWhile (· ≠ name)) line)) = []) :
    line = other := by
  induction names generalizing line other with
  | nil => exact (Prod.mk.inj same).2
  | cons first rest ih =>
      obtain ⟨fresh, distinct⟩ := List.nodup_cons.mp distinct
      let parts := found classes first line
      let others := found classes first other
      have lineSpared : angleBrackets.Spared parts := spared first line
      have otherSpared : angleBrackets.Spared others := spared first other
      have whole : source parts = line := source_tokens line
      have otherWhole : source others = other := source_tokens other
      have matched : values parts = values others := by
        have rows := congrArg
          (fun result => result.1.filter (·.name == first.text)) same
        simp only [filter_rounds_cons fresh] at rows
        exact List.map_injective_iff.mpr (variableOf_injective first) rows
      rw [rounds_cons, rounds_cons] at same
      obtain ⟨rows, templates⟩ := Prod.mk.inj same
      change (values parts).map _ ++ _ = (values others).map _ ++ _ at rows
      rw [matched] at rows
      have later := Prod.ext (List.append_cancel_left rows) templates
      -- The other placeholders are as many as in the line.
      have outputs : marked (placeholder first) parts =
          marked (placeholder first) others := by
        apply ih distinct later
        intro name listed
        have different : first ≠ name := fun same => fresh (same ▸ listed)
        have kept := clear name (List.mem_cons_of_mem _ listed)
        rw [takeWhile_of_ne different] at kept
        refine kept.imp_left fun free => ?_
        have counted := lineSpared.count_marked (named name) (named first)
        rw [whole, if_neg fun same => different
          (toList_text_inj.mp same).symm] at counted
        exact counted.trans free
      rcases clear first List.mem_cons_self with free | none
      · have counted := lineSpared.count_marked (named first) (named first)
        have otherCounted :=
          otherSpared.count_marked (named first) (named first)
        change count (placeholder first) (marked (placeholder first) parts) =
          count (placeholder first) _ + _ at counted
        change count (placeholder first) (marked (placeholder first) others) =
          count (placeholder first) _ + _ at otherCounted
        rw [if_pos rfl, whole, free] at counted
        rw [if_pos rfl, otherWhole, ← outputs, counted] at otherCounted
        have lengths := congrArg List.length matched
        have otherFree : count (placeholder first) other = 0 := by omega
        have recovered := lineSpared.source_inj otherSpared (named first)
          (by rw [whole]; exact free) (by rw [otherWhole]; exact otherFree)
          outputs matched
        rwa [whole, otherWhole] at recovered
      · rw [List.takeWhile_cons_of_neg (by simp)] at none
        change values parts = [] at none
        rw [← whole, ← otherWhole, source_of_no_values none,
          source_of_no_values (matched ▸ none), outputs]

end Rounds

/-! ## Lines of words

Placeholders and samples of what the patterns find, one after another with
spaces between them.  No pattern looks across a space. -/

inductive LogWord where
  | literal (name : PatternName)
  | sample (name : PatternName)
  deriving DecidableEq

def sampleText : PatternName → String
  | .uuid => "00000000-0000-0000-0000-000000000000"
  | .ip => "1.1.1.1"
  | .hex => "0x1"
  | .number => "1"

namespace LogWord

def text : LogWord → List Char
  | .literal name => placeholder name
  | .sample name => (sampleText name).toList

/-- The word after the pattern's round. -/
def replace (name : PatternName) (word : LogWord) : LogWord :=
  if word = .sample name then .literal name else word

end LogWord

def lineOf (words : List LogWord) : List Char :=
  words.flatMap fun word => word.text ++ [' ']

section Words

variable {classes : CharacterClasses} {name : PatternName}
  {words : List LogWord}

theorem found_lineOf_cons (name : PatternName) (word : LogWord)
    (words : List LogWord) :
    found classes name (lineOf (word :: words)) =
      found classes name word.text ++
        .plain ' ' :: found classes name (lineOf words) := by
  have between : classes.isWord ' ' = false := by
    rw [classes.isWord_ascii ' ' (by decide)]
    decide
  have separated := @tokens_separated _ classes.isWord (name.pattern classes)
    ' ' between (refused (by decide) (by decide) (by decide) (by decide) name)
    word.text (lineOf words)
  unfold found
  rw [← separated, lineOf, List.flatMap_cons, List.append_assoc]
  rfl

/-- No pattern finds a part of a placeholder. -/
theorem values_found_placeholder (name other : PatternName) :
    values (found classes name (placeholder other)) = [] :=
  (spared name _).values_marker (named other) (source_tokens _)

/-- A pattern finds nothing without a character that it needs. -/
theorem values_found_of_lacks {good : Char → Bool} {line : List Char}
    (needs : (name.pattern classes).Needs fun c => good c = true)
    (lacks : line.all (fun c => !good c) = true) :
    values (found classes name line) = [] := by
  apply List.filterMap_eq_nil_iff.mpr
  intro part member
  cases part with
  | plain c => rfl
  | found value =>
      exfalso
      obtain ⟨c, taken, holds⟩ := needed_of_found needs member
      have inside : c ∈ line := by
        rw [← @source_tokens _ classes.isWord (name.pattern classes) line]
        exact List.mem_flatMap.mpr ⟨.found value, member, taken⟩
      have missing := List.all_eq_true.mp lacks c inside
      rw [holds] at missing
      cases missing

/-- The earlier patterns do not find a later one's sample. -/
theorem values_found_sample :
    patternNames.Pairwise fun name other =>
      values (found classes name (sampleText other).toList) = [] := by
  have uuid : (PatternName.uuid.pattern classes).Needs
      fun c => (c == '-') = true := .inr (.inr (.inl fun c same => same))
  have ip : (PatternName.ip.pattern classes).Needs
      fun c => (c == '.') = true :=
    .inr (.inl (.inl (.inr fun c same => same)))
  have hex : (PatternName.hex.pattern classes).Needs
      fun c => isHexMark c = true := .inr (.inr (.inl fun c same => same))
  simp only [patternNames, List.pairwise_cons, List.mem_cons,
    List.not_mem_nil, or_false]
  refine ⟨?_, ?_, ?_, ?_⟩
  · rintro other (rfl | rfl | rfl) <;>
      exact values_found_of_lacks uuid (by decide)
  · rintro other (rfl | rfl) <;>
      exact values_found_of_lacks ip (by decide)
  · rintro other rfl
    exact values_found_of_lacks hex (by decide)
  · simp

theorem found_uuid :
    found classes .uuid (sampleText .uuid).toList =
      [.found (sampleText .uuid).toList] := by
  have zero := classes.isWord_ascii '0' (by decide)
  simp [sampleText, found, tokens, scan, PatternName.pattern,
    Pattern.sequence, Pattern.splits, isBoundary, Pattern.times,
    PatternName.exactly, isHexClass, zero, Char.isDigit, Char.isAlphanum]

theorem found_ip :
    found classes .ip (sampleText .ip).toList =
      [.found (sampleText .ip).toList] := by
  have one := classes.isWord_ascii '1' (by decide)
  have digit := classes.isDigit_ascii '1' (by decide)
  have dot := classes.isDigit_ascii '.' (by decide)
  simp [sampleText, found, tokens, scan, PatternName.pattern,
    Pattern.sequence, Pattern.splits, isBoundary, greedy, Pattern.times,
    PatternName.shortNumber, PatternName.exactly, one, digit, dot,
    Char.isDigit, Char.isAlphanum]

/-- A pattern finds its sample as a whole. -/
theorem found_sample (name : PatternName) :
    found classes name (sampleText name).toList =
      [.found (sampleText name).toList] := by
  have zero := classes.isWord_ascii '0' (by decide)
  have one := classes.isWord_ascii '1' (by decide)
  have digit := classes.isDigit_ascii '1' (by decide)
  cases name with
  | uuid => exact found_uuid
  | ip => exact found_ip
  | hex =>
      simp [sampleText, found, tokens, scan, PatternName.pattern,
        Pattern.sequence, Pattern.splits, isBoundary, greedy, Pattern.some,
        PatternName.exactly, isHexClass, isHexMark, zero, one, Char.isDigit,
        Char.isAlphanum]
  | number =>
      simp [sampleText, found, tokens, scan, PatternName.pattern,
        Pattern.sequence, Pattern.splits, isBoundary, greedy, Pattern.some,
        one, digit, Char.isDigit, Char.isAlphanum]

/-- The pattern finds its own sample only. -/
def Misses (classes : CharacterClasses) (name : PatternName)
    (words : List LogWord) : Prop :=
  ∀ other, .sample other ∈ words → other = name ∨
    values (found classes name (sampleText other).toList) = []

/-- What a round finds in a line of words, and what it makes of it. -/
theorem round_lineOf (misses : Misses classes name words) :
    values (found classes name (lineOf words)) =
        (words.filter (· = .sample name)).map
          (fun _ => (sampleText name).toList) ∧
      marked (placeholder name) (found classes name (lineOf words)) =
        lineOf (words.map (LogWord.replace name)) := by
  induction words with
  | nil => exact ⟨rfl, rfl⟩
  | cons word rest ih =>
      obtain ⟨found, replaced⟩ := ih fun other member =>
        misses other (List.mem_cons_of_mem _ member)
      have whole : values (Urp.found classes name word.text) =
            (if word = .sample name then [(sampleText name).toList] else []) ∧
          marked (placeholder name) (Urp.found classes name word.text) =
            (word.replace name).text := by
        by_cases own : word = .sample name
        · subst own
          simp only [LogWord.replace, if_true, LogWord.text, found_sample]
          exact ⟨rfl, List.append_nil _⟩
        · have nothing : values (Urp.found classes name word.text) = [] := by
            cases word with
            | literal other => exact values_found_placeholder name other
            | sample other =>
                refine (misses other List.mem_cons_self).resolve_left ?_
                rintro rfl
                exact own rfl
          rw [nothing, if_neg own, LogWord.replace, if_neg own,
            ← source_of_no_values nothing]
          exact ⟨rfl, source_tokens _⟩
      rw [found_lineOf_cons]
      constructor
      · rw [values, List.filterMap_append, ← values, whole.1]
        change _ ++ values (Urp.found classes name (lineOf rest)) = _
        rw [found, List.filter_cons]
        by_cases own : word = .sample name <;> simp [own]
      · rw [marked, List.flatMap_append, ← marked, whole.2]
        change _ ++ ' ' :: marked (placeholder name)
          (Urp.found classes name (lineOf rest)) = _
        rw [replaced, lineOf, lineOf, List.map_cons, List.flatMap_cons]
        simp

theorem sample_mem_replace {other : PatternName} :
    .sample other ∈ words.map (LogWord.replace name) ↔
      .sample other ∈ words ∧ other ≠ name := by
  rw [List.mem_map]
  constructor
  · rintro ⟨word, member, same⟩
    unfold LogWord.replace at same
    split at same
    · cases same
    · rename_i kept
      subst same
      exact ⟨member, fun same => kept (by rw [same])⟩
  · rintro ⟨member, different⟩
    refine ⟨_, member, ?_⟩
    rw [LogWord.replace, if_neg]
    intro same
    exact different (LogWord.sample.inj same)

/-- The patterns whose samples the line has are yet to come. -/
structure Upcoming (classes : CharacterClasses) (names : List PatternName)
    (words : List LogWord) : Prop where
  distinct : names.Nodup
  misses : names.Pairwise fun name other =>
    values (found classes name (sampleText other).toList) = []
  listed : ∀ other, .sample other ∈ words → other ∈ names

theorem upcoming_all (words : List LogWord) :
    Upcoming classes patternNames words where
  distinct := by decide
  misses := values_found_sample
  listed other _ := by cases other <;> decide

theorem Upcoming.first {names : List PatternName}
    (upcoming : Upcoming classes (name :: names) words) :
    Misses classes name words := by
  intro other member
  refine (List.mem_cons.mp (upcoming.listed other member)).imp_right ?_
  exact (List.pairwise_cons.mp upcoming.misses).1 other

theorem Upcoming.rest {names : List PatternName}
    (upcoming : Upcoming classes (name :: names) words) :
    Upcoming classes names (words.map (LogWord.replace name)) where
  distinct := (List.nodup_cons.mp upcoming.distinct).2
  misses := (List.pairwise_cons.mp upcoming.misses).2
  listed other member := by
    obtain ⟨member, different⟩ := sample_mem_replace.mp member
    exact (List.mem_cons.mp (upcoming.listed other member)).resolve_left
      different

theorem rounds_lineOf_cons {names : List PatternName}
    (misses : Misses classes name words) :
    rounds classes (name :: names) (lineOf words) =
      ((words.filter (· = .sample name)).map
          (fun _ => variableOf name (sampleText name).toList) ++
        (rounds classes names
          (lineOf (words.map (LogWord.replace name)))).1,
        (rounds classes names
          (lineOf (words.map (LogWord.replace name)))).2) := by
  obtain ⟨finds, output⟩ := round_lineOf misses
  rw [rounds_cons]
  simp only [finds, output, List.map_map]
  rfl

/-- A placeholder and a sample of its pattern can change places. -/
theorem rounds_swap {names : List PatternName} (listed : name ∈ names)
    (upcoming : Upcoming classes names
      (.literal name :: .sample name :: words)) :
    rounds classes names (lineOf (.literal name :: .sample name :: words)) =
      rounds classes names
        (lineOf (.sample name :: .literal name :: words)) := by
  induction names generalizing words with
  | nil => cases listed
  | cons first rest ih =>
      have misses := upcoming.first
      have swapped : Misses classes first
          (.sample name :: .literal name :: words) := by
        intro other member
        apply misses
        simp only [List.mem_cons] at member ⊢
        tauto
      rw [rounds_lineOf_cons misses, rounds_lineOf_cons swapped]
      by_cases same : first = name
      · subst same
        simp [LogWord.replace]
      · have inside : name ∈ rest :=
          (List.mem_cons.mp listed).resolve_left (Ne.symm same)
        have kept : LogWord.replace first (.sample name) = .sample name := by
          rw [LogWord.replace, if_neg]
          intro equal
          exact same (LogWord.sample.inj equal).symm
        have literal : LogWord.replace first (.literal name) =
            .literal name := rfl
        have later := upcoming.rest
        simp only [List.map_cons, kept, literal] at later ⊢
        rw [ih inside later]
        have different : (LogWord.sample name) ≠ .sample first :=
          fun equal => same (LogWord.sample.inj equal).symm
        simp [different]

theorem exists_row_lineOf {names : List PatternName} (listed : name ∈ names)
    (upcoming : Upcoming classes names words) :
    (∃ row ∈ (rounds classes names (lineOf words)).1,
      row.name = name.text) ↔ .sample name ∈ words := by
  induction names generalizing words with
  | nil => cases listed
  | cons first rest ih =>
      rw [rounds_lineOf_cons upcoming.first]
      have fresh := (List.nodup_cons.mp upcoming.distinct).1
      by_cases same : first = name
      · subst same
        constructor
        · rintro ⟨row, member, named⟩
          rcases List.mem_append.mp member with own | later
          · obtain ⟨word, inside, -⟩ := List.mem_map.mp own
            have filtered := List.mem_filter.mp inside
            rw [← of_decide_eq_true filtered.2]
            exact filtered.1
          · obtain ⟨other, inside, otherNamed⟩ := name_of_mem_rounds later
            rw [named] at otherNamed
            exact absurd (text_inj otherNamed ▸ inside) fresh
        · intro member
          refine ⟨_, List.mem_append_left _ (List.mem_map_of_mem
            (List.mem_filter.mpr ⟨member, decide_eq_true rfl⟩)), rfl⟩
      · have inside : name ∈ rest :=
          (List.mem_cons.mp listed).resolve_left (Ne.symm same)
        have later := ih inside upcoming.rest
        rw [sample_mem_replace] at later
        constructor
        · rintro ⟨row, member, named⟩
          rcases List.mem_append.mp member with own | left
          · obtain ⟨word, -, rfl⟩ := List.mem_map.mp own
            exact absurd (text_inj named) same
          · exact (later.mp ⟨row, left, named⟩).1
        · intro member
          obtain ⟨row, left, named⟩ := later.mpr ⟨member, Ne.symm same⟩
          exact ⟨row, List.mem_append_right _ left, named⟩

theorem count_lineOf (name : PatternName) (words : List LogWord) :
    count (placeholder name) (lineOf words) =
      words.countP (· = .literal name) := by
  induction words with
  | nil => rfl
  | cons word rest ih =>
      rw [lineOf, List.flatMap_cons, ← lineOf, List.countP_cons,
        List.append_assoc]
      have space : angleBrackets.opening ∉ [' '] := by decide
      cases word with
      | literal other =>
          have counted := count_marker (named name) (named other)
            ([' '] ++ lineOf rest)
          rw [count_append_of_not_mem space] at counted
          change count (placeholder name) (placeholder other ++ _) = _
          rw [placeholder, placeholder, counted, ← placeholder, ih,
            Nat.add_comm]
          congr 1
          simp only [toList_text_inj, LogWord.literal.injEq,
            decide_eq_true_eq]
          by_cases same : name = other
          · rw [if_pos same, if_pos same.symm]
          · rw [if_neg same, if_neg (Ne.symm same)]
      | sample other =>
          have absent : angleBrackets.opening ∉
              (sampleText other).toList ++ [' '] := by
            cases other <;> decide
          change count (placeholder name) ((sampleText other).toList ++
            ([' '] ++ lineOf rest)) = _
          rw [← List.append_assoc, placeholder,
            count_append_of_not_mem absent, ← placeholder, ih]
          simp

end Words

/-! ## Recovering lines -/

section Recovery

variable {classes : CharacterClasses}

theorem count_placeholder_iff (name : PatternName) (line : String) :
    HasPlaceholder name line ↔ count (placeholder name) line.toList ≠ 0 :=
  ⟨count_ne_zero_of_inside (List.cons_ne_nil _ _), exists_infix_of_count⟩

theorem extract_eq_iff {line other : String} :
    extractLogTemplate classes other = extractLogTemplate classes line ↔
      rounds classes patternNames other.toList =
        rounds classes patternNames line.toList := by
  constructor
  · intro same
    obtain ⟨templates, rows⟩ := LogTemplate.mk.inj same
    exact Prod.ext rows (String.ofList_inj.mp templates)
  · intro same
    unfold extractLogTemplate
    unfold rounds at same
    rw [same]

/-- A line is recoverable if no pattern finds something in it beside its own
placeholder. -/
theorem recoverable_of_clear {line : String} (clear : ∀ name,
      ¬ (HasPlaceholder name line ∧ HasVariable classes name line)) :
    Recoverable classes line := by
  intro other same
  have equal := line_eq_of_rounds (by decide) (extract_eq_iff.mp same).symm
    (fun name _ => by
      by_contra both
      rw [not_or] at both
      exact clear name ⟨(count_placeholder_iff name line).mpr both.1, both.2⟩)
  exact String.toList_inj.mp equal.symm

/-- The patterns whose placeholders the line has, and those that find something
in it. -/
structure IsSort (classes : CharacterClasses)
    (literal finds : PatternName → Prop) (line : String) : Prop where
  literal : ∀ name, HasPlaceholder name line ↔ literal name
  finds : ∀ name, HasVariable classes name line ↔ finds name

open Classical in
/-- A word for each placeholder and each find. -/
noncomputable def sortWords (literal finds : PatternName → Prop) :
    List LogWord :=
  patternNames.flatMap fun name =>
    (if literal name then [.literal name] else []) ++
      if finds name then [.sample name] else []

theorem literal_mem_sortWords {literal finds : PatternName → Prop}
    (name : PatternName) :
    .literal name ∈ sortWords literal finds ↔ literal name := by
  classical
  rw [sortWords, List.mem_flatMap]
  constructor
  · rintro ⟨other, -, member⟩
    rcases List.mem_append.mp member with inLiteral | inFinds
    · split at inLiteral
      · rename_i holds
        rwa [LogWord.literal.inj (List.mem_singleton.mp inLiteral)]
      · cases inLiteral
    · split at inFinds
      · cases List.mem_singleton.mp inFinds
      · cases inFinds
  · intro holds
    refine ⟨name, by cases name <;> decide, List.mem_append_left _ ?_⟩
    rw [if_pos holds]
    exact List.mem_cons_self

theorem sample_mem_sortWords {literal finds : PatternName → Prop}
    (name : PatternName) :
    .sample name ∈ sortWords literal finds ↔ finds name := by
  classical
  rw [sortWords, List.mem_flatMap]
  constructor
  · rintro ⟨other, -, member⟩
    rcases List.mem_append.mp member with inLiteral | inFinds
    · split at inLiteral
      · cases List.mem_singleton.mp inLiteral
      · cases inLiteral
    · split at inFinds
      · rename_i holds
        rwa [LogWord.sample.inj (List.mem_singleton.mp inFinds)]
      · cases inFinds
  · intro holds
    refine ⟨name, by cases name <;> decide, List.mem_append_right _ ?_⟩
    rw [if_pos holds]
    exact List.mem_cons_self

theorem isSort_lineOf {literal finds : PatternName → Prop}
    {words : List LogWord}
    (literals : ∀ name, .literal name ∈ words ↔ literal name)
    (samples : ∀ name, .sample name ∈ words ↔ finds name) :
    IsSort classes literal finds (String.ofList (lineOf words)) where
  literal name := by
    rw [count_placeholder_iff, String.toList_ofList, count_lineOf,
      ← Nat.pos_iff_ne_zero, List.countP_pos_iff, ← literals]
    simp
  finds name := by
    have distinct : patternNames.Nodup := by decide
    have listed : name ∈ patternNames := by cases name <;> decide
    unfold HasVariable
    rw [String.toList_ofList, finds_iff distinct listed,
      exists_row_lineOf listed (upcoming_all words), samples]

/-- A line of the sort in which a pattern finds something beside its own
placeholder. -/
theorem exists_not_recoverable {literal finds : PatternName → Prop}
    {name : PatternName} (held : literal name) (found : finds name) :
    ∃ line, IsSort classes literal finds line ∧ ¬ Recoverable classes line := by
  let words := sortWords literal finds
  have listed : name ∈ patternNames := by cases name <;> decide
  refine ⟨String.ofList (lineOf (.literal name :: .sample name :: words)),
    isSort_lineOf ?_ ?_, ?_⟩
  · intro other
    simp only [List.mem_cons, LogWord.literal.injEq, reduceCtorEq, false_or,
      words, literal_mem_sortWords]
    constructor
    · rintro (rfl | holds)
      · exact held
      · exact holds
    · exact .inr
  · intro other
    simp only [List.mem_cons, LogWord.sample.injEq, reduceCtorEq, false_or,
      words, sample_mem_sortWords]
    constructor
    · rintro (rfl | holds)
      · exact found
      · exact holds
    · exact .inr
  · intro recoverable
    have swapped := rounds_swap listed (@upcoming_all classes
      (.literal name :: .sample name :: words))
    have same := recoverable
      (String.ofList (lineOf (.sample name :: .literal name :: words))) (by
        rw [extract_eq_iff, String.toList_ofList, String.toList_ofList,
          swapped])
    have lines := String.ofList_inj.mp same
    cases name <;> cases lines

/-- The lines of a sort are all recoverable exactly if no pattern finds
something beside its own placeholder. -/
theorem recoverable_iff (classes : CharacterClasses)
    (literal finds : PatternName → Prop) :
    (∀ line, IsSort classes literal finds line → Recoverable classes line) ↔
      ∀ name, ¬ (literal name ∧ finds name) := by
  constructor
  · rintro recoverable name ⟨held, found⟩
    obtain ⟨line, sort, lost⟩ :=
      @exists_not_recoverable classes _ _ _ held found
    exact lost (recoverable line sort)
  · intro clear line sort
    apply recoverable_of_clear
    rintro name ⟨held, found⟩
    exact clear name ⟨(sort.literal name).mp held, (sort.finds name).mp found⟩

end Recovery

def asciiClasses : CharacterClasses where
  isWord c := c.isAlphanum || c == '_'
  isDigit c := c.isDigit
  isWord_ascii _ _ := rfl
  isDigit_ascii _ _ := rfl

theorem swappedNumber_not_recoverable :
    ¬ Recoverable asciiClasses "1 <number>" := by
  intro recoverable
  have same := recoverable "<number> 1" (by decide)
  exact absurd same (by decide)

end Urp
