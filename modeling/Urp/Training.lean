import Mathlib.Data.List.DropRight
import Mathlib.Data.List.SplitBy
import Urp.Contracts

/-!
# Deduplication of training samples

`dedupe_training_samples` removes a sample whose words and metadata were seen
before, and notes which sample stands for it.  Neither the removed text nor the
place of a removed sample is noted.
-/

namespace Urp

open Python

/-! ## The reduction -/

structure TrainingSample where
  sampleId : String
  text : String
  metadata : Object := ∅

namespace TrainingSample

def fingerprint (sample : TrainingSample) : String :=
  stableJsonHash (.dict
    [("text", .str (String.intercalate " " (splitWords sample.text))),
      ("metadata", sample.metadata.toValue)])

/-- Equal as dataclasses: the metadata is the same, or equal as dictionaries. -/
def Same (sample other : TrainingSample) : Prop :=
  sample.sampleId = other.sampleId ∧ sample.text = other.text ∧
    (sample.metadata = other.metadata ∨
      Value.pyEq sample.metadata.toValue other.metadata.toValue = true)

end TrainingSample

structure TrainingReductionResult where
  accepted : Bool
  uniqueSamples : List TrainingSample
  duplicateMap : Dict String String
  bytesAvoided : Nat
  verifier : String := "dataset_lineage"
  rollback : String :=
    "reconstruct original sample order from duplicate map"

/-- What the loop of `dedupe_training_samples` accumulates. -/
structure TrainingScan where
  seen : Dict String TrainingSample := ∅
  unique : List TrainingSample := []
  duplicateMap : Dict String String := ∅
  bytesAvoided : Nat := 0

def scanSample (scan : TrainingScan) (sample : TrainingSample) :
    TrainingScan :=
  match scan.seen.lookup sample.fingerprint with
  | some first =>
      { scan with
        duplicateMap :=
          scan.duplicateMap.insert sample.sampleId first.sampleId
        bytesAvoided :=
          scan.bytesAvoided + (utf8 sample.text.toList).length }
  | none =>
      { scan with
        seen := scan.seen.insert sample.fingerprint sample
        unique := scan.unique ++ [sample] }

def scanSamples (samples : List TrainingSample) : TrainingScan :=
  samples.foldl scanSample {}

def dedupeTrainingSamples (samples : List TrainingSample) :
    TrainingReductionResult :=
  let scan := scanSamples samples
  { accepted := !scan.duplicateMap.entries.isEmpty
    uniqueSamples := scan.unique
    duplicateMap := scan.duplicateMap
    bytesAvoided := scan.bytesAvoided }

/-! ## Words -/

/-- Spaces behind a text add no words. -/
theorem words_append_spaces {body spaces : List Char}
    (ends : ∀ c ∈ body.getLast?, isSpace c = false)
    (blank : ∀ c ∈ spaces, isSpace c = true) :
    splitWords (String.ofList (body ++ spaces)) =
      splitWords (String.ofList body) := by
  let alike : Char → Char → Bool := fun c d => isSpace c == isSpace d
  have parted : (body ++ spaces).splitBy alike =
      body.splitBy alike ++ spaces.splitBy alike := by
    apply List.splitBy_append
    intro c last d first
    have space := blank d (List.mem_of_head? first)
    simp only [alike, ends c last, space]
    decide
  have none : (spaces.splitBy alike).filter
      (fun run => run.all fun c => !isSpace c) = [] := by
    apply List.filter_eq_nil_iff.mpr
    intro run member words
    have nonempty := List.ne_nil_of_mem_splitBy member
    obtain ⟨c, inside⟩ := List.exists_mem_of_ne_nil _ nonempty
    have listed : c ∈ (spaces.splitBy alike).flatten :=
      List.mem_flatten.mpr ⟨run, member, inside⟩
    rw [List.flatten_splitBy] at listed
    have word := List.all_eq_true.mp words c inside
    rw [blank c listed] at word
    cases word
  unfold splitWords
  simp only [String.toList_ofList]
  rw [show (body ++ spaces).splitBy (fun c d => isSpace c == isSpace d) = _ from
    parted, List.filter_append, none, List.append_nil]

theorem splitWords_append_space (text : String) :
    splitWords (text ++ " ") = splitWords text := by
  let body := text.toList.rdropWhile isSpace
  let spaces := text.toList.rtakeWhile isSpace
  have whole : body ++ spaces = text.toList :=
    List.rdropWhile_append_rtakeWhile
  have ends : ∀ c ∈ body.getLast?, isSpace c = false := by
    intro c last
    have nonempty : body ≠ [] := by
      intro empty
      rw [empty] at last
      cases last
    have kept := List.rdropWhile_last_not isSpace text.toList nonempty
    rw [List.getLast?_eq_some_getLast nonempty] at last
    cases last
    simpa using kept
  have blank : ∀ c ∈ spaces, isSpace c = true := fun c member =>
    List.mem_rtakeWhile_imp member
  have longer : text ++ " " = String.ofList (body ++ (spaces ++ [' '])) := by
    apply String.toList_inj.mp
    rw [String.toList_append, ← whole]
    simp
  have same : text = String.ofList (body ++ spaces) := by
    rw [whole, String.ofList_toList]
  rw [longer, words_append_spaces ends]
  · conv_rhs => rw [same, words_append_spaces ends blank]
  · rw [List.forall_mem_append, List.forall_mem_singleton]
    exact ⟨blank, by decide⟩

/-! ## What the loop knows -/

section Scan

variable {samples early late : List TrainingSample} {sample : TrainingSample}

theorem scanSamples_append (early late : List TrainingSample) :
    scanSamples (early ++ late) = late.foldl scanSample (scanSamples early) := by
  simp [scanSamples]

/-- The loop has seen the fingerprints of the samples. -/
theorem seen_scanSamples (samples : List TrainingSample) (mark : String) :
    (scanSamples samples).seen.lookup mark ≠ none ↔
      mark ∈ samples.map TrainingSample.fingerprint := by
  induction samples using List.reverseRecOn with
  | nil => simp [scanSamples]
  | append_singleton early last ih =>
      rw [scanSamples_append, List.foldl_cons, List.foldl_nil, List.map_append,
        List.mem_append, ← ih]
      cases found : (scanSamples early).seen.lookup last.fingerprint with
      | some first =>
          have known : ∀ mark, mark = last.fingerprint →
              (scanSamples early).seen.lookup mark ≠ none := by
            intro mark same
            rw [same, found]
            intro missing
            cases missing
          simp only [scanSample, found]
          constructor
          · exact .inl
          · rintro (before | own)
            · exact before
            · exact known mark (by simpa using own)
      | none =>
          simp only [scanSample, found]
          rw [Dict.lookup_insert]
          by_cases same : last.fingerprint = mark
          · simp [same]
          · simp [same, Ne.symm same]

/-- Without repetitions nothing is removed. -/
theorem scanSamples_of_nodup
    (distinct : (samples.map TrainingSample.fingerprint).Nodup) :
    (scanSamples samples).unique = samples ∧
      (scanSamples samples).duplicateMap = ∅ := by
  induction samples using List.reverseRecOn with
  | nil => exact ⟨rfl, rfl⟩
  | append_singleton early last ih =>
      rw [List.map_append, List.map_singleton, List.nodup_append] at distinct
      obtain ⟨before, -, apart⟩ := distinct
      obtain ⟨unique, duplicates⟩ := ih before
      have fresh : (scanSamples early).seen.lookup last.fingerprint = none := by
        by_contra known
        have listed := (seen_scanSamples early last.fingerprint).mp known
        exact apart _ listed _ (List.mem_singleton.mpr rfl) rfl
      rw [scanSamples_append, List.foldl_cons, List.foldl_nil]
      simp only [scanSample, fresh]
      exact ⟨by rw [unique], duplicates⟩

/-- A reduction without duplicates kept every sample. -/
theorem unique_of_no_duplicates
    (none : ∀ key, (scanSamples samples).duplicateMap.lookup key = none) :
    (scanSamples samples).unique = samples := by
  induction samples using List.reverseRecOn with
  | nil => rfl
  | append_singleton early last ih =>
      rw [scanSamples_append, List.foldl_cons, List.foldl_nil] at none ⊢
      cases found : (scanSamples early).seen.lookup last.fingerprint with
      | some first =>
          have noted := none last.sampleId
          simp only [scanSample, found, Dict.lookup_insert_self] at noted
          cases noted
      | none =>
          simp only [scanSample, found] at none ⊢
          rw [ih none]

end Scan

/-! ## Removed samples -/

/-- The two loops differ in the bytes avoided only. -/
structure TrainingScan.Alike (scan other : TrainingScan) : Prop where
  seen : scan.seen = other.seen
  unique : scan.unique = other.unique
  duplicateMap : scan.duplicateMap = other.duplicateMap

section Removed

variable {scan other : TrainingScan} {early late : List TrainingSample}
  {sample : TrainingSample}

theorem TrainingScan.Alike.foldl (alike : scan.Alike other)
    (samples : List TrainingSample) :
    (samples.foldl scanSample scan).Alike (samples.foldl scanSample other) := by
  induction samples generalizing scan other with
  | nil => exact alike
  | cons sample rest ih =>
      apply ih
      cases found : other.seen.lookup sample.fingerprint with
      | some first =>
          simp only [scanSample, alike.seen, found]
          exact ⟨rfl, alike.unique, by rw [alike.duplicateMap]⟩
      | none =>
          simp only [scanSample, alike.seen, found]
          exact ⟨rfl, by rw [alike.unique], alike.duplicateMap⟩

/-- The text of a removed sample leaves no trace but its length. -/
theorem alike_of_replaced (text : String)
    (words : splitWords text = splitWords sample.text)
    (repeated : sample.fingerprint ∈ early.map TrainingSample.fingerprint) :
    (scanSamples (early ++ { sample with text := text } :: late)).Alike
      (scanSamples (early ++ sample :: late)) := by
  have mark : ({ sample with text := text } : TrainingSample).fingerprint =
      sample.fingerprint := by
    simp only [TrainingSample.fingerprint, words]
  obtain ⟨first, found⟩ := Option.ne_none_iff_exists'.mp
    ((seen_scanSamples early sample.fingerprint).mpr repeated)
  rw [scanSamples_append, scanSamples_append, List.foldl_cons, List.foldl_cons]
  apply TrainingScan.Alike.foldl
  simp only [scanSample, mark, found]
  exact ⟨rfl, rfl, rfl⟩

/-- A repetition has a sample with its fingerprint before it. -/
theorem exists_repeated {samples : List TrainingSample}
    (repeated : ¬ (samples.map TrainingSample.fingerprint).Nodup) :
    ∃ early sample late, samples = early ++ sample :: late ∧
      sample.fingerprint ∈ early.map TrainingSample.fingerprint := by
  induction samples using List.reverseRecOn with
  | nil => exact absurd List.nodup_nil repeated
  | append_singleton before last ih =>
      by_cases distinct : (before.map TrainingSample.fingerprint).Nodup
      · refine ⟨before, last, [], rfl, ?_⟩
        by_contra fresh
        apply repeated
        rw [List.map_append, List.map_singleton, List.nodup_append]
        refine ⟨distinct, List.nodup_singleton _, ?_⟩
        intro mark listed other member same
        rw [List.mem_singleton.mp member] at same
        exact fresh (same ▸ listed)
      · obtain ⟨early, sample, late, rfl, member⟩ := ih distinct
        exact ⟨early, sample, late ++ [last], by simp, member⟩

end Removed

/-! ## The rollback -/

/-- The two results have equal unique samples and duplicate maps. -/
structure TrainingReductionResult.Same
    (result other : TrainingReductionResult) : Prop where
  uniqueSamples : List.Forall₂ TrainingSample.Same result.uniqueSamples
    other.uniqueSamples
  duplicateMap : ∀ key, result.duplicateMap.lookup key =
    other.duplicateMap.lookup key

def sampleIds (samples : List TrainingSample) : List String :=
  samples.map TrainingSample.sampleId

def sampleTexts (samples : List TrainingSample) : List String :=
  samples.map TrainingSample.text

/-- The unique samples and the duplicate map determine the identifiers and the
texts of the samples, in their order. -/
def IsRecoverable (samples : List TrainingSample) : Prop :=
  ∀ others : List TrainingSample, (sampleIds others).Nodup →
    (dedupeTrainingSamples samples).Same (dedupeTrainingSamples others) →
      sampleIds samples = sampleIds others ∧
        sampleTexts samples = sampleTexts others

theorem same_map {samples others : List TrainingSample}
    (same : List.Forall₂ TrainingSample.Same samples others) :
    sampleIds samples = sampleIds others ∧
      sampleTexts samples = sampleTexts others := by
  induction same with
  | nil => exact ⟨rfl, rfl⟩
  | cons head _ ih =>
      obtain ⟨ids, texts⟩ := ih
      unfold sampleIds sampleTexts at *
      simp only [List.map_cons, head.1, head.2.1, ids, texts, and_self]

/-- A dataset with a removed sample is not recoverable. -/
theorem not_isRecoverable {samples : List TrainingSample}
    (distinct : (sampleIds samples).Nodup)
    (repeated : ¬ (samples.map TrainingSample.fingerprint).Nodup) :
    ¬ IsRecoverable samples := by
  obtain ⟨early, sample, late, rfl, member⟩ := exists_repeated repeated
  intro recoverable
  have alike := @alike_of_replaced early late sample (sample.text ++ " ")
    (splitWords_append_space sample.text) member
  let others := early ++ { sample with text := sample.text ++ " " } :: late
  have ids : sampleIds others = sampleIds (early ++ sample :: late) := by
    simp [others, sampleIds]
  obtain ⟨-, texts⟩ := recoverable others (by rw [ids]; exact distinct) {
    uniqueSamples := by
      show List.Forall₂ _ (scanSamples (early ++ sample :: late)).unique
        (scanSamples others).unique
      rw [alike.unique]
      exact List.forall₂_same.mpr fun _ _ => ⟨rfl, rfl, .inl rfl⟩
    duplicateMap := by
      intro key
      show (scanSamples (early ++ sample :: late)).duplicateMap.lookup key =
        (scanSamples others).duplicateMap.lookup key
      rw [alike.duplicateMap] }
  have lengths := congrArg (fun texts => (texts.map String.length).sum) texts
  simp [others, sampleTexts] at lengths

/-- A dataset can be rolled back exactly if no two of its samples have the same
fingerprint. -/
theorem isRecoverable_iff {samples : List TrainingSample}
    (distinct : (sampleIds samples).Nodup) :
    IsRecoverable samples ↔
      (samples.map TrainingSample.fingerprint).Nodup := by
  constructor
  · intro recoverable
    by_contra repeated
    exact not_isRecoverable distinct repeated recoverable
  · intro marks others _ same
    obtain ⟨unique, duplicates⟩ := scanSamples_of_nodup marks
    have kept : (scanSamples others).unique = others := by
      apply unique_of_no_duplicates
      intro key
      have equal := same.duplicateMap key
      change (scanSamples samples).duplicateMap.lookup key = _ at equal
      rw [duplicates] at equal
      exact equal.symm
    apply same_map
    have whole := same.uniqueSamples
    change List.Forall₂ _ (scanSamples samples).unique
      (scanSamples others).unique at whole
    rw [unique, kept] at whole
    exact whole

/-- Two samples that differ in their spaces. -/
def spacedSamples : List TrainingSample :=
  [{ sampleId := "a", text := "hello world" },
    { sampleId := "b", text := "hello  world" }]

theorem spacedSamples_not_isRecoverable : ¬ IsRecoverable spacedSamples := by
  apply not_isRecoverable (by decide)
  have words : splitWords "hello  world" = splitWords "hello world" := by
    decide
  simp [spacedSamples, TrainingSample.fingerprint, words]

theorem isRecoverable_iff_spaced :
    IsRecoverable spacedSamples ↔
      (spacedSamples.map TrainingSample.fingerprint).Nodup :=
  isRecoverable_iff (by decide)

end Urp
