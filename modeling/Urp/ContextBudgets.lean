import Mathlib.Algebra.Ring.Nat
import Urp.Context
import Urp.Library.Greedy

/-!
# Context budgets

`compile_context` is a greedy selection: a chunk is taken if its fingerprint is
new and its tokens fit what the chunks before it left of the budget.  The
messages of a request follow the chunks by their positions.
-/

namespace Urp

open Python Greedy

/-! ## The selection -/

def contextTokens (chunks : List ContextChunk) : Nat :=
  (chunks.map fun chunk => approximateTokens chunk.text).sum

/-- The chunk repeats none of those taken and fits the budget with them. -/
def admitsChunk (maxTokens : Int) (taken : List ContextChunk)
    (chunk : ContextChunk) : Bool :=
  decide (chunk.fingerprint ∉ taken.map ContextChunk.fingerprint ∧
    (contextTokens taken + approximateTokens chunk.text : Nat) ≤ maxTokens)

/-- The chunks, each with whether it stays. -/
def contextMarks (maxTokens : Int) (chunks : List ContextChunk) :
    List (ContextChunk × Bool) :=
  marks (admitsChunk maxTokens) [] chunks

section Scan

variable {maxTokens : Int} {scan : ContextScan}
  {taken chunks : List ContextChunk} {chunk : ContextChunk}

@[simp] theorem contextTokens_nil : contextTokens [] = 0 := rfl

theorem contextTokens_append (early late : List ContextChunk) :
    contextTokens (early ++ late) =
      contextTokens early + contextTokens late := by
  simp [contextTokens]

theorem contextTokens_singleton (chunk : ContextChunk) :
    contextTokens [chunk] = approximateTokens chunk.text := by
  simp [contextTokens]

/-- What the loop knows of the chunks it has taken. -/
structure ContextScan.Took (scan : ContextScan) (taken : List ContextChunk) :
    Prop where
  chunks : scan.chunks = taken
  tokensAfter : scan.tokensAfter = contextTokens taken
  seen : ∀ mark, mark ∈ scan.seen ↔ mark ∈ taken.map ContextChunk.fingerprint

theorem scanChunk_admitted (took : scan.Took taken)
    (admitted : admitsChunk maxTokens taken chunk = true) :
    (scanChunk maxTokens scan chunk).Took (taken ++ [chunk]) ∧
      (scanChunk maxTokens scan chunk).removedFingerprints =
        scan.removedFingerprints := by
  obtain ⟨fresh, fits⟩ := of_decide_eq_true admitted
  have stays : ¬ (chunk.fingerprint ∈ scan.seen ∨
      maxTokens <
        (scan.tokensAfter + approximateTokens chunk.text : Nat)) := by
    rw [took.seen, took.tokensAfter]
    rintro (repeated | full)
    · exact fresh repeated
    · omega
  unfold scanChunk
  rw [if_neg stays]
  refine ⟨⟨?_, ?_, ?_⟩, rfl⟩
  · rw [took.chunks]
  · rw [took.tokensAfter, contextTokens_append, contextTokens_singleton]
  · intro mark
    rw [List.mem_cons, took.seen, List.map_append, List.mem_append, or_comm]
    simp

theorem scanChunk_refused (took : scan.Took taken)
    (refused : admitsChunk maxTokens taken chunk = false) :
    (scanChunk maxTokens scan chunk).Took taken ∧
      (scanChunk maxTokens scan chunk).removedFingerprints =
        scan.removedFingerprints ++ [chunk.fingerprint] := by
  have leaves : chunk.fingerprint ∈ scan.seen ∨
      maxTokens <
        (scan.tokensAfter + approximateTokens chunk.text : Nat) := by
    rw [took.seen, took.tokensAfter]
    by_contra stays
    obtain ⟨fresh, fits⟩ := not_or.mp stays
    exact of_decide_eq_false refused ⟨fresh, by omega⟩
  unfold scanChunk
  rw [if_pos leaves]
  exact ⟨⟨took.chunks, took.tokensAfter, took.seen⟩, rfl⟩

theorem tokensBefore_scanChunk :
    (scanChunk maxTokens scan chunk).tokensBefore =
      scan.tokensBefore + approximateTokens chunk.text := by
  simp only [scanChunk]
  split <;> rfl

/-- The loop makes the selection. -/
theorem foldl_scanChunk (took : scan.Took taken) :
    (chunks.foldl (scanChunk maxTokens) scan).Took
        (taken ++ kept (marks (admitsChunk maxTokens) taken chunks)) ∧
      (chunks.foldl (scanChunk maxTokens) scan).removedFingerprints =
        scan.removedFingerprints ++
          (dropped (marks (admitsChunk maxTokens) taken chunks)).map
            ContextChunk.fingerprint ∧
      (chunks.foldl (scanChunk maxTokens) scan).tokensBefore =
        scan.tokensBefore + contextTokens chunks := by
  induction chunks generalizing scan taken with
  | nil => simpa [marks] using took
  | cons chunk rest ih =>
      have before := @tokensBefore_scanChunk maxTokens scan chunk
      rw [List.foldl_cons, marks]
      cases admitted : admitsChunk maxTokens taken chunk with
      | true =>
          obtain ⟨later, removed⟩ := scanChunk_admitted took admitted
          obtain ⟨took, removals, tokens⟩ := ih later
          rw [if_pos rfl]
          refine ⟨?_, ?_, ?_⟩
          · simpa using took
          · rw [removals, removed, dropped_cons_true]
          · rw [tokens, before]
            simp [contextTokens, Nat.add_assoc]
      | false =>
          obtain ⟨later, removed⟩ := scanChunk_refused took admitted
          obtain ⟨took, removals, tokens⟩ := ih later
          rw [if_neg Bool.false_ne_true]
          refine ⟨?_, ?_, ?_⟩
          · simpa using took
          · rw [removals, removed, dropped_cons_false]
            simp
          · rw [tokens, before]
            simp [contextTokens, Nat.add_assoc]

theorem compileContext_eq (maxTokens : Int) (chunks : List ContextChunk) :
    compileContext chunks maxTokens = {
      chunks := kept (contextMarks maxTokens chunks)
      tokensBefore := contextTokens chunks
      tokensAfter := contextTokens (kept (contextMarks maxTokens chunks))
      removedFingerprints := (dropped (contextMarks maxTokens chunks)).map
        ContextChunk.fingerprint } := by
  have start : ContextScan.Took ⟨⟨[], 0, 0, []⟩, []⟩ [] :=
    ⟨rfl, rfl, fun _ => by simp⟩
  obtain ⟨took, removed, tokens⟩ := @foldl_scanChunk maxTokens _ _ chunks start
  have taken := took.chunks
  have after := took.tokensAfter
  rw [List.nil_append] at taken after removed
  rw [Nat.zero_add] at tokens
  unfold compileContext contextMarks
  generalize chunks.foldl (scanChunk maxTokens) ⟨⟨[], 0, 0, []⟩, []⟩ = final at *
  obtain ⟨⟨finalChunks, finalBefore, finalAfter, finalRemoved⟩, seen⟩ := final
  simp only at taken after removed tokens
  rw [taken, tokens, after, removed]

end Scan

/-! ## Budgeted dedupes -/

/-- The compiled context is the marked selection of the chunks: it repeats no
fingerprint, keeps the budget, drops a chunk for a reason, and compiles to
itself. -/
structure CompiledContext.IsBudgetedDedupe (compiled : CompiledContext)
    (maxTokens : Int) (chunks : List ContextChunk)
    (marked : List (ContextChunk × Bool)) : Prop where
  whole : marked.map Prod.fst = chunks
  chosen : compiled.chunks = kept marked
  removed : compiled.removedFingerprints =
    (dropped marked).map ContextChunk.fingerprint
  sublist : compiled.chunks.Sublist chunks
  distinct : (compiled.chunks.map ContextChunk.fingerprint).Nodup
  tokensAfter : compiled.tokensAfter = contextTokens compiled.chunks
  budget : compiled.tokensAfter ≤ maxTokens
  reasons : ∀ early chunk late, marked = early ++ (chunk, false) :: late →
    (∃ before ∈ kept early, before.fingerprint = chunk.fingerprint) ∨
      maxTokens < (contextTokens (kept early) +
        approximateTokens chunk.text : Nat)
  count : compiled.chunks.length + compiled.removedFingerprints.length =
    chunks.length
  again : compileContext compiled.chunks maxTokens =
    { compiled with
      tokensBefore := compiled.tokensAfter
      removedFingerprints := [] }

section Selection

variable {maxTokens : Int} {chunks : List ContextChunk}

/-- The chunks that stay keep the budget and repeat no fingerprint. -/
theorem kept_contextMarks (nonneg : 0 ≤ maxTokens) :
    (contextTokens (kept (contextMarks maxTokens chunks)) ≤ maxTokens) ∧
      ((kept (contextMarks maxTokens chunks)).map
        ContextChunk.fingerprint).Nodup := by
  have taken := @taken_induction _ (admitsChunk maxTokens)
    (fun taken => (contextTokens taken ≤ maxTokens) ∧
      (taken.map ContextChunk.fingerprint).Nodup) []
    ⟨by simpa using nonneg, by simp⟩
    (by
      intro before chunk holds admitted
      obtain ⟨fresh, fits⟩ := of_decide_eq_true admitted
      constructor
      · rw [contextTokens_append, contextTokens_singleton]
        exact fits
      · rw [List.map_append, List.map_singleton, List.nodup_append]
        refine ⟨holds.2, by simp, ?_⟩
        intro mark listed other member same
        rw [List.mem_singleton.mp member] at same
        exact fresh (same ▸ listed))
    chunks
  rw [List.nil_append] at taken
  exact taken

theorem compileContext_isBudgetedDedupe (nonneg : 0 ≤ maxTokens)
    (chunks : List ContextChunk) :
    (compileContext chunks maxTokens).IsBudgetedDedupe maxTokens chunks
      (contextMarks maxTokens chunks) := by
  have all := map_fst_marks (admitsChunk maxTokens) [] chunks
  obtain ⟨budget, distinct⟩ := @kept_contextMarks maxTokens chunks nonneg
  rw [compileContext_eq]
  constructor
  · exact all
  · rfl
  · rfl
  · have sublist := kept_sublist (contextMarks maxTokens chunks)
    unfold contextMarks at sublist
    rw [all] at sublist
    exact sublist
  · exact distinct
  · rfl
  · exact budget
  · intro early chunk late split
    have refused := mark_of_split (admitsChunk maxTokens) split
    rw [List.nil_append] at refused
    by_contra unforced
    obtain ⟨fresh, fits⟩ := not_or.mp unforced
    apply of_decide_eq_false refused.symm
    constructor
    · intro listed
      obtain ⟨before, member, same⟩ := List.mem_map.mp listed
      exact fresh ⟨before, member, same⟩
    · omega
  · rw [List.length_map, length_kept_add_dropped]
    have lengths := congrArg List.length all
    rw [List.length_map] at lengths
    exact lengths
  · rw [compileContext_eq]
    have again := marks_kept (admitsChunk maxTokens) [] chunks
    simp only [contextMarks, again, kept_map_true, dropped_map_true,
      List.map_nil]

end Selection

/-! ## Messages -/

/-- The messages that are not governed, and of the governed ones those whose
flag is set. -/
def keptMessages : List Object → List Bool → List Object
  | [], _ => []
  | message :: rest, flags =>
      if isGoverned message then
        (if flags.head? = some true then [message] else []) ++
          keptMessages rest flags.tail
      else message :: keptMessages rest flags

section Messages

variable {host : Host} {messages : List Object}

theorem sourceId_injective : Function.Injective sourceId := by
  intro index other same
  have texts := congrArg String.toList same
  simp only [sourceId, String.toList_append] at texts
  have digits := List.append_cancel_left texts
  have numbers := congrArg (fun text => Nat.ofDigitChars 10 text 0) digits
  simpa [Nat.toString_eq_ofList_toDigits] using numbers

/-- Keeping the flagged messages is filtering by a predicate that stays with
the positions. -/
theorem keptMessages_zipIdx (stays : Object × Nat → Bool)
    (messages : List Object) (start : Nat) :
    ((messages.zipIdx start).filter fun item =>
        !isGoverned item.1 || stays item).map Prod.fst =
      keptMessages messages
        (((messages.zipIdx start).filter fun item => isGoverned item.1).map
          stays) := by
  induction messages generalizing start with
  | nil => rfl
  | cons message rest ih =>
      have later := ih (start + 1)
      cases governed : isGoverned message with
      | true =>
          cases staying : stays (message, start) with
          | true => simp [List.zipIdx_cons, keptMessages, governed, staying,
              later]
          | false => simp [List.zipIdx_cons, keptMessages, governed, staying,
              later]
      | false => simp [List.zipIdx_cons, keptMessages, governed, later]

theorem sourceIds_contextChunks :
    ((contextChunksFromOpenaiMessages host messages).map
      ContextChunk.sourceId).Nodup := by
  have positions : ((messages.zipIdx.filter fun item =>
      isGoverned item.1).map Prod.snd).Nodup := by
    apply List.Nodup.sublist (List.filter_sublist.map Prod.snd)
    rw [List.zipIdx_map_snd]
    exact List.nodup_range'
  have ids := positions.map sourceId_injective
  unfold contextChunksFromOpenaiMessages
  rw [List.map_map] at ids ⊢
  exact ids

/-- The messages follow the marks of their chunks. -/
theorem compileOpenaiMessages_eq (host : Host) (messages : List Object)
    (maxTokens : Int) :
    compileOpenaiMessages host messages maxTokens =
      (compileContext (contextChunksFromOpenaiMessages host messages) maxTokens,
        keptMessages messages ((contextMarks maxTokens
          (contextChunksFromOpenaiMessages host messages)).map Prod.snd)) := by
  have chunks := map_fst_marks (admitsChunk maxTokens) []
    (contextChunksFromOpenaiMessages host messages)
  have marked := @marked_eq_of_nodup _ _ _ (contextMarks maxTokens
    (contextChunksFromOpenaiMessages host messages)) ContextChunk.sourceId
  unfold contextMarks at marked
  rw [chunks] at marked
  have flags := congrArg (List.map Prod.snd) (marked sourceIds_contextChunks)
  have staying := keptMessages_zipIdx (fun item =>
    decide (sourceId item.2 ∈ (compileContext
      (contextChunksFromOpenaiMessages host messages) maxTokens).chunks.map
        ContextChunk.sourceId)) messages 0
  apply Prod.ext
  · rfl
  · refine Eq.trans staying ?_
    unfold contextMarks
    rw [flags, compileContext_eq]
    unfold contextMarks contextChunksFromOpenaiMessages
    rw [List.map_map, List.map_map]
    rfl

end Messages

/-- Every compiled context is a budgeted dedupe of its chunks, and the messages
of a request follow it. -/
theorem context_budgeted {maxTokens : Int} (nonneg : 0 ≤ maxTokens) :
    (∀ chunks, ∃ marked,
      (compileContext chunks maxTokens).IsBudgetedDedupe maxTokens chunks
        marked) ∧
      ∀ host messages,
        let chunks := contextChunksFromOpenaiMessages host messages
        let (compiled, result) :=
          compileOpenaiMessages host messages maxTokens
        ∃ marked, compiled = compileContext chunks maxTokens ∧
          compiled.IsBudgetedDedupe maxTokens chunks marked ∧
            result = keptMessages messages (marked.map Prod.snd) := by
  constructor
  · intro chunks
    exact ⟨contextMarks maxTokens chunks,
      compileContext_isBudgetedDedupe nonneg chunks⟩
  · intro host messages chunks
    rw [compileOpenaiMessages_eq]
    exact ⟨contextMarks maxTokens chunks, rfl,
      compileContext_isBudgetedDedupe nonneg chunks, rfl⟩

theorem context_budgeted_default :
    (∀ chunks, ∃ marked,
      (compileContext chunks 4000).IsBudgetedDedupe 4000 chunks marked) ∧
      ∀ host messages,
        let chunks := contextChunksFromOpenaiMessages host messages
        let (compiled, result) := compileOpenaiMessages host messages 4000
        ∃ marked, compiled = compileContext chunks 4000 ∧
          compiled.IsBudgetedDedupe 4000 chunks marked ∧
            result = keptMessages messages (marked.map Prod.snd) :=
  context_budgeted (by decide)

end Urp
