import Urp.Embeddings
import Urp.Python.JsonRoundTrip

/-!
# Answer texts

The verifiers of a chat answer take the text of whatever stands at the place
of its content.  The text of a string is the string; the text of any other
value has a printed character, so that it passes as well.
-/

namespace Urp

open Python

/-! ## Verification of cache values -/

/-- `verify_embedding_vector` of any value. -/
def verifyEmbeddingValue (value : Value) : VerificationResult :=
  let vectors := match value with
    | .list vectors => vectors
    | _ => []
  let accepted := !vectors.isEmpty && vectors.all fun vector =>
    match vector with
    | .list items => !items.isEmpty && items.all isNumber
    | _ => false
  { accepted
    verifierId := "embedding_shape@0"
    reason := if accepted then "vector_shape_ok" else "invalid_embedding_shape"
    details := .ofList [("vectors", .int vectors.length)] }

/-- `verify_json_shape`. -/
def verifyJsonShape (value : Value) (requiredKeys : List String) :
    VerificationResult :=
  let keys := match value with
    | .dict entries => entries.map Prod.fst
    | _ => []
  let missing := requiredKeys.filter (· ∉ keys)
  { accepted := missing.isEmpty
    verifierId := "json_shape@0"
    reason := if missing.isEmpty then "shape_ok" else "missing_keys"
    details := .ofList [("missing", texts (sortedSet missing))] }

/-- `[row.get("embedding") for row in rows if isinstance(row, dict)]`. -/
def embeddingRows (rows : Value) : Except PyException Value :=
  match rows with
  | .list rows =>
      .ok (.list (rows.filterMap fun row =>
        match row with
        | .dict entries => some (Value.get entries "embedding")
        | _ => none))
  | .dict _ | .str _ | .bytes _ => .ok (.list [])
  | _ => .error .typeError

/-- `_text_value`. -/
def textValue (host : Host) (value : Value) : String :=
  match value with
  | .str text => text
  | .dict _ =>
      match assistantContent value with
      | some content => host.str content
      | none => ""
  | _ => ""

/-- `str(specification.get(key) or "")`. -/
def specificationText (host : Host) (specification : Object) (key : String) :
    String :=
  let value := specification.get key
  if value.isTruthy then host.str value else ""

def supportedVerifierTypes : List String :=
  ["chat_completion", "embedding_shape", "json_shape", "non_empty_text",
    "sha256"]

def verifyCacheValue (host : Host) (value : Value)
    (specification : Option Object) : Except PyException VerificationResult :=
  let specification := specification.getD ∅
  match specificationText host specification "type" with
  | "non_empty_text" => .ok (verifyNonEmptyText (textValue host value))
  | "chat_completion" =>
      match assistantContent value with
      | none =>
          .ok {
            accepted := false
            verifierId := "chat_completion_shape@1"
            reason := "missing_assistant_content" }
      | some content => .ok (verifyNonEmptyText (host.str content))
  | "embedding_shape" =>
      match value with
      | .dict entries => do
          let vectors ← embeddingRows (Value.getD entries "data" (.list []))
          .ok (verifyEmbeddingValue vectors)
      | value => .ok (verifyEmbeddingValue value)
  | "json_shape" => do
      let required ← iterTexts host
        (specification.getD "required_keys" (.list []))
      if required.isEmpty then
        .ok {
          accepted := false
          verifierId := "json_shape@1"
          reason := "required_keys_missing" }
      else .ok (verifyJsonShape value required)
  | "sha256" => do
      let expected := specificationText host specification "expected"
      let bytes := match ← decodeJsonValue host value with
        | .str text => some (utf8 text.toList)
        | .bytes bytes => some bytes
        | _ => none
      match bytes with
      | some bytes =>
          if expected.length = 64 then
            .ok {
              accepted := sha256 bytes = expected
              verifierId := "sha256_cache_value@1"
              reason := if sha256 bytes = expected then "match" else "mismatch"
              details := .ofList [("expected", .str expected),
                ("actual", .str (sha256 bytes))] }
          else
            .ok {
              accepted := false
              verifierId := "sha256_cache_value@1"
              reason := "bytes_and_expected_digest_required" }
      | none =>
          .ok {
            accepted := false
            verifierId := "sha256_cache_value@1"
            reason := "bytes_and_expected_digest_required" }
  | _ =>
      .ok {
        accepted := false
        verifierId := "cache_value_verifier@1"
        reason := "supported_verifier_type_required"
        details := .ofList [("supported", texts supportedVerifierTypes)] }

/-! ## Blank texts -/

/-- The text has a character that is not space. -/
def HasInk (text : List Char) : Prop := ∃ c ∈ text, isSpace c = false

theorem strip_ne_empty_iff (text : String) :
    strip text ≠ "" ↔ HasInk text.toList := by
  constructor
  · intro kept
    by_contra blank
    apply kept
    have spaces : ∀ c ∈ text.toList, isSpace c = true := by
      intro c member
      by_contra printed
      exact blank ⟨c, member, by simpa using printed⟩
    have gone : text.toList.dropWhile isSpace = [] :=
      List.dropWhile_eq_nil_iff.mpr spaces
    simp [strip, gone]
  · intro ⟨c, member, printed⟩ empty
    have gone : ((text.toList.dropWhile isSpace).reverse.dropWhile
        isSpace).reverse = [] := by
      simpa [strip] using congrArg String.toList empty
    have left : text.toList.dropWhile isSpace = [] := by
      have spaces := List.dropWhile_eq_nil_iff.mp
        (List.reverse_eq_nil_iff.mp gone)
      cases rest : text.toList.dropWhile isSpace with
      | nil => rfl
      | cons first others =>
          have stops := List.head_dropWhile_not isSpace
            (show text.toList.dropWhile isSpace ≠ [] by rw [rest]; simp)
          have space := spaces first (by rw [rest]; simp)
          simp only [rest, List.head_cons] at stops
          rw [space] at stops
          cases stops
    have space := List.dropWhile_eq_nil_iff.mp left c member
    rw [printed] at space
    cases space

theorem HasInk.append_left {text : List Char} (ink : HasInk text)
    (early : List Char) : HasInk (early ++ text) := by
  obtain ⟨c, member, printed⟩ := ink
  exact ⟨c, List.mem_append_right early member, printed⟩

theorem HasInk.append_right {text : List Char} (ink : HasInk text)
    (late : List Char) : HasInk (text ++ late) := by
  obtain ⟨c, member, printed⟩ := ink
  exact ⟨c, List.mem_append_left late member, printed⟩

theorem hasInk_cons {c : Char} (printed : isSpace c = false)
    (text : List Char) : HasInk (c :: text) :=
  ⟨c, List.mem_cons_self, printed⟩

theorem isSpace_of_isDigit {c : Char} (digit : c.isDigit = true) :
    isSpace c = false := by
  simp only [Char.isDigit, Bool.and_eq_true, decide_eq_true_eq] at digit
  have low : 48 ≤ c.toNat := digit.1
  have high : c.toNat ≤ 57 := digit.2
  simp only [isSpace, Bool.or_eq_false_iff, Bool.and_eq_false_iff,
    decide_eq_false_iff_not, beq_eq_false_iff_ne]
  omega

theorem hasInk_toDigits (n : Nat) : HasInk (Nat.toDigits 10 n) := by
  obtain ⟨c, member⟩ := List.exists_mem_of_ne_nil _ Nat.toDigits_ne_nil
  exact ⟨c, member, isSpace_of_isDigit (Json.toDigits_digits member)⟩

theorem hasInk_intText (n : Int) : HasInk (intText n) := by
  cases n with
  | ofNat n => exact hasInk_toDigits n
  | negSucc n => exact hasInk_cons (by decide) _

theorem hasInk_floatText (f : PyFloat) : HasInk (floatText f) := by
  cases f with
  | finite text =>
      unfold floatText decimalText
      apply HasInk.append_right
      apply HasInk.append_right
      apply HasInk.append_left
      exact hasInk_toDigits text.whole
  | infinity negative =>
      cases negative with
      | true => exact ⟨'i', by decide, by decide⟩
      | false => exact ⟨'i', by decide, by decide⟩
  | nan => exact ⟨'n', by decide, by decide⟩

/-- The text of a value that is no string is never blank. -/
theorem hasInk_repr (isPrintable : Char → Bool) (value : Value)
    (noText : ∀ text, value ≠ .str text) :
    HasInk (Python.repr isPrintable value) := by
  cases value with
  | none => exact ⟨'N', by simp [Python.repr], by decide⟩
  | bool b =>
      cases b with
      | true => exact ⟨'T', by simp [Python.repr], by decide⟩
      | false => exact ⟨'F', by simp [Python.repr], by decide⟩
  | int n => simpa [Python.repr] using hasInk_intText n
  | float f => simpa [Python.repr] using hasInk_floatText f
  | str text => exact absurd rfl (noText text)
  | bytes b => exact ⟨'b', by simp [Python.repr, reprBytes], by decide⟩
  | list items => exact ⟨'[', by simp [Python.repr], by decide⟩
  | dict entries => exact ⟨'{', by simp [Python.repr], by decide⟩

/-! ## Accepted answers -/

section Answers

variable {host : Host} {value content : Value}

/-- The answer's content is a string with a character that is not space. -/
def HasRealText (value : Value) : Prop :=
  ∃ text, assistantContent value = some (.str text) ∧ HasInk text.toList

theorem verifyNonEmptyText_accepted_iff (text : String) :
    (verifyNonEmptyText text).accepted = true ↔ HasInk text.toList := by
  rw [← strip_ne_empty_iff]
  simp [verifyNonEmptyText]

/-- A content of another type is accepted, whatever it is. -/
theorem accepted_of_noText (noText : ∀ text, content ≠ .str text) :
    (verifyNonEmptyText (host.str content)).accepted = true := by
  rw [verifyNonEmptyText_accepted_iff]
  have ink := hasInk_repr host.isPrintable content noText
  cases content with
  | str text => exact absurd rfl (noText text)
  | none | bool _ | int _ | float _ | bytes _ | list _ | dict _ =>
      simpa [Host.str, str] using ink

/-- One verifier of the content at its place. -/
theorem accepts_realText_iff {accepted : Bool}
    (verdict : accepted =
      match assistantContent value with
      | none => false
      | some content => (verifyNonEmptyText (host.str content)).accepted) :
    (accepted = true → HasRealText value) ↔
      ∀ content, assistantContent value = some content →
        ∃ text, content = .str text := by
  constructor
  · intro sound content found
    by_contra noText
    have other : ∀ text, content ≠ .str text := fun text same =>
      noText ⟨text, same⟩
    rw [found] at verdict
    obtain ⟨text, real, -⟩ :=
      sound (verdict.trans (accepted_of_noText other))
    exact noText ⟨text, Option.some.inj (found.symm.trans real)⟩
  · intro texts passes
    cases found : assistantContent value with
    | none =>
        rw [found] at verdict
        rw [passes] at verdict
        cases verdict
    | some content =>
        obtain ⟨text, rfl⟩ := texts content found
        rw [found] at verdict
        exact ⟨text, found,
          (verifyNonEmptyText_accepted_iff text).mp (verdict.symm.trans passes)⟩

/-- What the two verifiers of a chat answer accept is real text. -/
structure AcceptsRealText (host : Host) (value : Value) : Prop where
  chat : (verifyChatResponse host value).accepted = true → HasRealText value
  cache : ∀ specification verification,
    specificationText host specification "type" = "chat_completion" →
      verifyCacheValue host value (some specification) = .ok verification →
        verification.accepted = true → HasRealText value

theorem verifyCacheValue_chat {specification : Object}
    {verification : VerificationResult}
    (chat : specificationText host specification "type" = "chat_completion")
    (run : verifyCacheValue host value (some specification) =
      .ok verification) :
    verification.accepted =
      match assistantContent value with
      | none => false
      | some content => (verifyNonEmptyText (host.str content)).accepted := by
  unfold verifyCacheValue at run
  simp only [Option.getD_some, chat] at run
  cases found : assistantContent value with
  | none =>
      rw [found] at run
      cases run
      rfl
  | some content =>
      rw [found] at run
      cases run
      rfl

/-- Exactly the answers whose content is a string, or that have none, are
accepted only with real text. -/
theorem acceptsRealText_iff (host : Host) (value : Value) :
    AcceptsRealText host value ↔
      ∀ content, assistantContent value = some content →
        ∃ text, content = .str text := by
  have verdict : (verifyChatResponse host value).accepted =
      match assistantContent value with
      | none => false
      | some content => (verifyNonEmptyText (host.str content)).accepted := by
    unfold verifyChatResponse
    cases assistantContent value <;> rfl
  constructor
  · intro accepts
    exact (accepts_realText_iff verdict).mp accepts.chat
  · intro texts
    constructor
    · exact (accepts_realText_iff verdict).mpr texts
    · intro specification verification chat run
      exact (accepts_realText_iff (verifyCacheValue_chat chat run)).mpr texts

/-- An answer without a text, as providers send it beside tool calls. -/
def nullAnswer : Value :=
  .dict [("choices", .list [.dict [("message", .dict [("content", .none)])]])]

theorem nullAnswer_accepted : ¬ AcceptsRealText Host.counting nullAnswer := by
  have content : assistantContent nullAnswer = some .none := rfl
  intro accepts
  obtain ⟨text, found, -⟩ := accepts.chat (by decide)
  rw [content] at found
  cases found

end Answers

end Urp
