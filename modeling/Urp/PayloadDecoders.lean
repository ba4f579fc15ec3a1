import Urp.Encoding

/-!
# The payload decoders of the clients

`decode_json_value` has a counterpart in the Go and in the TypeScript client.
The three read the same JSON values, `bytes` being `[]byte` and `Uint8Array`,
and walk them alike; they differ in the objects that they take for byte
envelopes.
-/

namespace Urp

open Python

/-! ## Walking a value -/

section Walk

variable {ε : Type}

-- What the decoder makes of an object that it takes for an envelope.
variable (envelope : List (String × Value) → Option (Except ε Value))

mutual

def decodeWith : Value → Except ε Value
  | .dict entries =>
      match envelope entries with
      | some opened => opened
      | none => do
          let entries ← decodeEntriesWith entries
          .ok (.dict entries)
  | .list items => do
      let items ← decodeListWith items
      .ok (.list items)
  | value => .ok value

def decodeListWith : List Value → Except ε (List Value)
  | [] => .ok []
  | item :: rest => do
      let item ← decodeWith item
      let rest ← decodeListWith rest
      .ok (item :: rest)

def decodeEntriesWith :
    List (String × Value) → Except ε (List (String × Value))
  | [] => .ok []
  | (key, value) :: rest => do
      let value ← decodeWith value
      let rest ← decodeEntriesWith rest
      .ok ((key, value) :: rest)

end

end Walk

section Objects

-- A property of objects.
variable (holds : List (String × Value) → Bool)

mutual

/-- Some object of the value, at any depth, has the property. -/
def someObject : Value → Bool
  | .dict entries => holds entries || someObjectEntries entries
  | .list items => someObjectList items
  | _ => false

def someObjectList : List Value → Bool
  | [] => false
  | item :: rest => someObject item || someObjectList rest

def someObjectEntries : List (String × Value) → Bool
  | [] => false
  | (_, value) :: rest => someObject value || someObjectEntries rest

end

end Objects

mutual

theorem someObject_or (first second : List (String × Value) → Bool)
    (value : Value) :
    someObject (fun entries => first entries || second entries) value =
      (someObject first value || someObject second value) := by
  match value with
  | .none | .bool _ | .int _ | .float _ | .str _ | .bytes _ => rfl
  | .list items =>
      simp only [someObject, someObjectList_or first second items]
  | .dict entries =>
      simp only [someObject, someObjectEntries_or first second entries]
      ac_rfl

theorem someObjectList_or (first second : List (String × Value) → Bool)
    (items : List Value) :
    someObjectList (fun entries => first entries || second entries) items =
      (someObjectList first items || someObjectList second items) := by
  match items with
  | [] => rfl
  | item :: rest =>
      simp only [someObjectList, someObject_or first second item,
        someObjectList_or first second rest]
      ac_rfl

theorem someObjectEntries_or (first second : List (String × Value) → Bool)
    (entries : List (String × Value)) :
    someObjectEntries (fun entries => first entries || second entries)
        entries =
      (someObjectEntries first entries || someObjectEntries second entries) := by
  match entries with
  | [] => rfl
  | (key, value) :: rest =>
      simp only [someObjectEntries, someObject_or first second value,
        someObjectEntries_or first second rest]
      ac_rfl

end

/-- Exactly two keys, one of them with the marker of an envelope. -/
def isMarked (entries : List (String × Value)) : Bool :=
  entries.length == 2 &&
    match Entries.lookup entries encodingKey with
    | some (.str text) => text == "base64"
    | _ => false

namespace Go

/-- The branch of `decodeJSONValue` for envelopes, over
`base64.StdEncoding.DecodeString`. -/
def openEnvelope (decodeString : String → Except String Bytes)
    (entries : List (String × Value)) : Option (Except String Value) :=
  if isMarked entries then
    match Entries.lookup entries "data" with
    | some (.str encoded) =>
        match decodeString encoded with
        | .ok decoded => some (.ok (.bytes decoded))
        | .error error => some (.error ("invalid base64 envelope: " ++ error))
    | _ => some (.error "base64 envelope data must be a string")
  else none

def decodeJSONValue (decodeString : String → Except String Bytes) :
    Value → Except String Value :=
  decodeWith (openEnvelope decodeString)

end Go

namespace TypeScript

/-- The branch of `decodeJsonValue` for envelopes, over the `atob` of
`base64ToBytes`. -/
def openEnvelope (atob : String → Except String Bytes)
    (entries : List (String × Value)) : Option (Except String Value) :=
  if isMarked entries then
    match Entries.lookup entries "data" with
    | some (.str encoded) => some ((atob encoded).map .bytes)
    | _ => none
  else none

def decodeJsonValue (atob : String → Except String Bytes) :
    Value → Except String Value :=
  decodeWith (openEnvelope atob)

end TypeScript

/-! ## Python's decoder as a walk -/

/-- The branch of `decode_json_value` for envelopes. -/
def openEnvelope (host : Host) (entries : List (String × Value)) :
    Option (Except PyException Value) :=
  (envelopeData? entries).map fun data =>
    match Base64.decode (host.str data).toList with
    | some bytes => .ok (.bytes bytes)
    | none => .error invalidEnvelope

mutual

theorem decodeJsonValue_eq (host : Host) (value : Value) :
    decodeJsonValue host value = decodeWith (openEnvelope host) value := by
  match value with
  | .none | .bool _ | .int _ | .float _ | .str _ | .bytes _ => rfl
  | .list items =>
      simp only [decodeJsonValue, decodeWith, decodeList_eq host items]
  | .dict entries =>
      simp only [decodeJsonValue, decodeWith, openEnvelope,
        decodeEntries_eq host entries]
      cases envelopeData? entries with
      | none => rfl
      | some data => rfl

theorem decodeList_eq (host : Host) (items : List Value) :
    decodeList host items = decodeListWith (openEnvelope host) items := by
  match items with
  | [] => rfl
  | item :: rest =>
      rw [decodeList, decodeListWith, decodeJsonValue_eq host item,
        decodeList_eq host rest]

theorem decodeEntries_eq (host : Host) (entries : List (String × Value)) :
    decodeEntries host entries =
      decodeEntriesWith (openEnvelope host) entries := by
  match entries with
  | [] => rfl
  | (key, value) :: rest =>
      rw [decodeEntries, decodeEntriesWith, decodeJsonValue_eq host value,
        decodeEntries_eq host rest]

end

/-! ## What a walk accepts -/

section Walk

variable {ε δ : Type}

/-- A sequence of two computations returns if both do. -/
theorem isOk_bind_bind {α β γ : Type} (first : Except ε α)
    (second : Except ε β) (join : α → β → γ) :
    (first >>= fun a => second >>= fun b => Except.ok (join a b)).isOk =
      (first.isOk && second.isOk) := by
  cases first <;> cases second <;> rfl

theorem isOk_bind_ok {α β : Type} (first : Except ε α) (wrap : α → β) :
    (first >>= fun a => Except.ok (wrap a)).isOk = first.isOk := by
  cases first <;> rfl

variable {envelope : List (String × Value) → Option (Except ε Value)}
variable {bad : List (String × Value) → Bool}

/-- No bad object is taken for a plain one, and what is taken for an envelope
is rejected if something in it is bad. -/
structure Rejecting
    (envelope : List (String × Value) → Option (Except ε Value))
    (bad : List (String × Value) → Bool) : Prop where
  plain : ∀ entries, envelope entries = none → bad entries = false
  opened : ∀ entries result, envelope entries = some result →
    someObject bad (.dict entries) = true → result.isOk = false

mutual

theorem decodeWith_rejects (rejecting : Rejecting envelope bad)
    (value : Value)
    (found : someObject bad value = true) :
    (decodeWith envelope value).isOk = false := by
  match value with
  | .none | .bool _ | .int _ | .float _ | .str _ | .bytes _ =>
      simp [someObject] at found
  | .list items =>
      rw [decodeWith, isOk_bind_ok]
      exact decodeListWith_rejects rejecting items found
  | .dict entries =>
      rw [decodeWith]
      split
      · rename_i result taken
        exact rejecting.opened entries result taken found
      · rename_i untaken
        rw [isOk_bind_ok]
        apply decodeEntriesWith_rejects rejecting entries
        simpa [someObject, rejecting.plain entries untaken] using found

theorem decodeListWith_rejects (rejecting : Rejecting envelope bad)
    (items : List Value)
    (found : someObjectList bad items = true) :
    (decodeListWith envelope items).isOk = false := by
  match items with
  | [] => simp [someObjectList] at found
  | item :: rest =>
      rw [decodeListWith, isOk_bind_bind, Bool.and_eq_false_iff]
      rcases Bool.or_eq_true_iff.mp found with head | tail
      · exact .inl (decodeWith_rejects rejecting item head)
      · exact .inr (decodeListWith_rejects rejecting rest tail)

theorem decodeEntriesWith_rejects (rejecting : Rejecting envelope bad)
    (entries : List (String × Value))
    (found : someObjectEntries bad entries = true) :
    (decodeEntriesWith envelope entries).isOk = false := by
  match entries with
  | [] => simp [someObjectEntries] at found
  | (key, value) :: rest =>
      rw [decodeEntriesWith, isOk_bind_bind, Bool.and_eq_false_iff]
      rcases Bool.or_eq_true_iff.mp found with head | tail
      · exact .inl (decodeWith_rejects rejecting value head)
      · exact .inr (decodeEntriesWith_rejects rejecting rest tail)

end

/-- What is taken for an envelope is accepted if it is not bad. -/
def Accepting (envelope : List (String × Value) → Option (Except ε Value))
    (bad : List (String × Value) → Bool) : Prop :=
  ∀ entries result, envelope entries = some result →
    bad entries = false → result.isOk = true

mutual

theorem decodeWith_accepts (accepting : Accepting envelope bad)
    (value : Value)
    (free : someObject bad value = false) :
    (decodeWith envelope value).isOk = true := by
  match value with
  | .none | .bool _ | .int _ | .float _ | .str _ | .bytes _ => rfl
  | .list items =>
      rw [decodeWith, isOk_bind_ok]
      exact decodeListWith_accepts accepting items free
  | .dict entries =>
      obtain ⟨own, inner⟩ := Bool.or_eq_false_iff.mp free
      rw [decodeWith]
      split
      · rename_i result taken
        exact accepting entries result taken own
      · rw [isOk_bind_ok]
        exact decodeEntriesWith_accepts accepting entries inner

theorem decodeListWith_accepts (accepting : Accepting envelope bad)
    (items : List Value)
    (free : someObjectList bad items = false) :
    (decodeListWith envelope items).isOk = true := by
  match items with
  | [] => rfl
  | item :: rest =>
      obtain ⟨head, tail⟩ := Bool.or_eq_false_iff.mp free
      rw [decodeListWith, isOk_bind_bind,
        decodeWith_accepts accepting item head, decodeListWith_accepts accepting rest tail]
      rfl

theorem decodeEntriesWith_accepts (accepting : Accepting envelope bad)
    (entries : List (String × Value))
    (free : someObjectEntries bad entries = false) :
    (decodeEntriesWith envelope entries).isOk = true := by
  match entries with
  | [] => rfl
  | (key, value) :: rest =>
      obtain ⟨head, tail⟩ := Bool.or_eq_false_iff.mp free
      rw [decodeEntriesWith, isOk_bind_bind,
        decodeWith_accepts accepting value head, decodeEntriesWith_accepts accepting rest tail]
      rfl

end

variable {other : List (String × Value) → Option (Except δ Value)}

/-- The other walk takes the same objects for plain ones, and opens alike
every envelope that the first one opens. -/
structure Refines
    (envelope : List (String × Value) → Option (Except ε Value))
    (other : List (String × Value) → Option (Except δ Value)) : Prop where
  plain : ∀ entries, envelope entries = none → other entries = none
  opened : ∀ entries value, envelope entries = some (.ok value) →
    other entries = some (.ok value)

mutual

theorem decodeWith_refines (refines : Refines envelope other)
    (value : Value) {decoded : Value}
    (run : decodeWith envelope value = .ok decoded) :
    decodeWith other value = .ok decoded := by
  match value with
  | .none | .bool _ | .int _ | .float _ | .str _ | .bytes _ =>
      cases run
      rfl
  | .list items =>
      rw [decodeWith, Program.except_bind_eq_ok_iff] at run ⊢
      obtain ⟨results, inner, same⟩ := run
      cases same
      exact ⟨results, decodeListWith_refines refines items inner, rfl⟩
  | .dict entries =>
      rw [decodeWith] at run ⊢
      cases taken : envelope entries with
      | some result =>
          rw [taken] at run
          change result = .ok decoded at run
          rw [run] at taken
          rw [refines.opened entries decoded taken]
      | none =>
          rw [taken] at run
          rw [refines.plain entries taken]
          obtain ⟨results, inner, same⟩ :=
            Program.except_bind_eq_ok_iff.mp run
          cases same
          exact Program.except_bind_eq_ok_iff.mpr
            ⟨results, decodeEntriesWith_refines refines entries inner, rfl⟩

theorem decodeListWith_refines (refines : Refines envelope other)
    (items : List Value) {decoded : List Value}
    (run : decodeListWith envelope items = .ok decoded) :
    decodeListWith other items = .ok decoded := by
  match items with
  | [] =>
      cases run
      rfl
  | item :: rest =>
      rw [decodeListWith, Program.except_bind_eq_ok_iff] at run ⊢
      obtain ⟨head, itemRun, run⟩ := run
      obtain ⟨tail, restRun, same⟩ := Program.except_bind_eq_ok_iff.mp run
      cases same
      exact ⟨head, decodeWith_refines refines item itemRun,
        Program.except_bind_eq_ok_iff.mpr
          ⟨tail, decodeListWith_refines refines rest restRun, rfl⟩⟩

theorem decodeEntriesWith_refines (refines : Refines envelope other)
    (entries : List (String × Value))
    {decoded : List (String × Value)}
    (run : decodeEntriesWith envelope entries = .ok decoded) :
    decodeEntriesWith other entries = .ok decoded := by
  match entries with
  | [] =>
      cases run
      rfl
  | (key, value) :: rest =>
      rw [decodeEntriesWith, Program.except_bind_eq_ok_iff] at run ⊢
      obtain ⟨head, valueRun, run⟩ := run
      obtain ⟨tail, restRun, same⟩ := Program.except_bind_eq_ok_iff.mp run
      cases same
      exact ⟨head, decodeWith_refines refines value valueRun,
        Program.except_bind_eq_ok_iff.mpr
          ⟨tail, decodeEntriesWith_refines refines rest restRun, rfl⟩⟩

end

end Walk

/-! ## Envelopes -/

/-- The object has the marker, but not the text of an envelope. -/
def isLooseEnvelope (entries : List (String × Value)) : Bool :=
  isMarked entries &&
    match Entries.lookup entries "data" with
    | some (.str _) => false
    | _ => true

/-- The object is an envelope whose text is not base64. -/
def isInvalidEnvelope (entries : List (String × Value)) : Bool :=
  isMarked entries &&
    match Entries.lookup entries "data" with
    | some (.str text) => (Base64.decode text.toList).isNone
    | _ => false

def isMalformed (entries : List (String × Value)) : Bool :=
  isInvalidEnvelope entries || isLooseEnvelope entries

theorem someObject_isMalformed (value : Value) :
    someObject isMalformed value =
      (someObject isInvalidEnvelope value || someObject isLooseEnvelope value) :=
  someObject_or isInvalidEnvelope isLooseEnvelope value

theorem envelopeData?_eq (entries : List (String × Value)) :
    envelopeData? entries =
      if isMarked entries then Entries.lookup entries "data" else none := by
  unfold envelopeData? isMarked
  by_cases two : entries.length = 2
  · rw [if_pos two, two]
    cases Entries.lookup entries encodingKey with
    | none => rfl
    | some mark =>
        cases mark with
        | str text =>
            by_cases base : text = "base64"
            · subst base
              cases Entries.lookup entries "data" <;> rfl
            · simp [base]
        | _ => rfl
  · rw [if_neg two]
    simp [two]

/-- A marked object with data has no other value. -/
theorem entries_of_isMarked {entries : List (String × Value)} {data : Value}
    (marked : isMarked entries = true)
    (held : Entries.lookup entries "data" = some data) :
    entries = [(encodingKey, .str "base64"), ("data", data)] ∨
      entries = [("data", data), (encodingKey, .str "base64")] := by
  have apart : encodingKey ≠ "data" := by decide
  rw [isMarked, Bool.and_eq_true, beq_iff_eq] at marked
  obtain ⟨two, mark⟩ := marked
  obtain ⟨⟨firstKey, first⟩, ⟨secondKey, second⟩, rfl⟩ :=
    List.length_eq_two.mp two
  have key : Entries.lookup [(firstKey, first), (secondKey, second)]
      encodingKey = some (.str "base64") := by
    split at mark
    · rename_i text found
      rw [found, beq_iff_eq.mp mark]
    · cases mark
  simp only [Entries.lookup] at held key
  grind

theorem someObject_marked {bad : List (String × Value) → Bool}
    {entries : List (String × Value)} {data : Value}
    (marked : isMarked entries = true)
    (held : Entries.lookup entries "data" = some data) :
    someObject bad (.dict entries) = (bad entries || someObject bad data) := by
  rcases entries_of_isMarked marked held with rfl | rfl <;>
    simp [someObject, someObjectEntries]

/-- A text that starts with no digit is not base64. -/
theorem Base64.decode_cons {c : Char} (rest : List Char)
    (noDigit : Base64.digitValue c = none) (noPad : c ≠ '=') :
    Base64.decode (c :: rest) = none := by
  simp [Base64.decode, noDigit, noPad]

/-- The text of a list or of an object is not base64. -/
theorem decode_str_of_someObject (host : Host)
    {bad : List (String × Value) → Bool} {data : Value}
    (found : someObject bad data = true) :
    Base64.decode (host.str data).toList = none := by
  cases data with
  | list items =>
      simp only [Host.str, str, Python.repr, String.toList_ofList]
      exact Base64.decode_cons _ (by decide) (by decide)
  | dict entries =>
      simp only [Host.str, str, Python.repr, String.toList_ofList]
      exact Base64.decode_cons _ (by decide) (by decide)
  | _ => simp [someObject] at found

/-- An invalid envelope is opened by none of the decoders. -/
theorem rejecting_openEnvelope (host : Host) :
    Rejecting (openEnvelope host) isInvalidEnvelope := by
  constructor
  · intro entries untaken
    rw [openEnvelope, Option.map_eq_none_iff, envelopeData?_eq] at untaken
    rw [isInvalidEnvelope, Bool.and_eq_false_imp]
    intro marked
    rw [if_pos marked] at untaken
    rw [untaken]
  · intro entries result taken found
    rw [openEnvelope, envelopeData?_eq, Option.map_eq_some_iff] at taken
    obtain ⟨data, held, rfl⟩ := taken
    split at held
    · rename_i marked
      have undecodable : Base64.decode (host.str data).toList = none := by
        rw [someObject_marked marked held, Bool.or_eq_true_iff] at found
        rcases found with own | inner
        · rw [isInvalidEnvelope, marked, held, Bool.true_and] at own
          cases data with
          | str text => exact Option.isNone_iff_eq_none.mp own
          | _ => cases own
        · exact decode_str_of_someObject host inner
      rw [undecodable]
      rfl
    · cases held

section Clients

variable {decodeString atob : String → Except String Bytes}
variable (goAgrees : ∀ text,
  (decodeString text).toOption = Base64.decode text.toList)
variable (atobAgrees : ∀ text,
  (atob text).toOption = Base64.decode text.toList)

theorem isOk_of_agrees {decoder : String → Except String Bytes}
    (agrees : ∀ text, (decoder text).toOption = Base64.decode text.toList)
    (text : String) :
    (decoder text).isOk = (Base64.decode text.toList).isSome := by
  rw [← agrees]
  cases decoder text <;> rfl

theorem Go.openEnvelope_eq_none {entries : List (String × Value)} :
    Go.openEnvelope decodeString entries = none ↔ isMarked entries = false := by
  unfold Go.openEnvelope
  split
  · rename_i marked
    rw [marked]
    split
    · split <;> simp
    · simp
  · rename_i unmarked
    simpa using unmarked

/-- The Go client opens an envelope whose data is the text of its bytes. -/
theorem Go.openEnvelope_eq_ok {entries : List (String × Value)}
    {decoded : Value} :
    Go.openEnvelope decodeString entries = some (.ok decoded) ↔
      isMarked entries = true ∧ ∃ text bytes,
        Entries.lookup entries "data" = some (.str text) ∧
          decodeString text = .ok bytes ∧ decoded = .bytes bytes := by
  unfold Go.openEnvelope
  split
  · rename_i marked
    split
    · rename_i text held
      cases run : decodeString text <;> simp [marked, held, run, eq_comm]
    · rename_i noText
      simp only [Option.some.injEq, reduceCtorEq, marked, true_and, false_iff,
        not_exists, not_and]
      intro text bytes held
      exact absurd held (noText text)
  · rename_i unmarked
    simp [unmarked]

include goAgrees in
theorem Go.isOk_openEnvelope {entries : List (String × Value)}
    {result : Except String Value}
    (taken : Go.openEnvelope decodeString entries = some result) :
    result.isOk = !isMalformed entries := by
  have marked : isMarked entries = true := by
    by_contra unmarked
    rw [Go.openEnvelope_eq_none.mpr (Bool.not_eq_true _ ▸ unmarked)] at taken
    cases taken
  simp only [Go.openEnvelope, marked, if_true] at taken
  simp only [isMalformed, isInvalidEnvelope, isLooseEnvelope, marked,
    Bool.true_and]
  split at taken
  · rename_i text held
    have decodes := isOk_of_agrees goAgrees text
    rw [Bool.or_false, Option.not_isNone, ← decodes]
    cases run : decodeString text with
    | ok bytes =>
        simp only [run] at taken
        cases taken
        rfl
    | error error =>
        simp only [run] at taken
        cases taken
        rfl
  · cases taken
    rfl

include goAgrees in
theorem Go.rejecting_openEnvelope :
    Rejecting (Go.openEnvelope decodeString) isMalformed := by
  constructor
  · intro entries untaken
    have unmarked := Go.openEnvelope_eq_none.mp untaken
    simp [isMalformed, isInvalidEnvelope, isLooseEnvelope, unmarked]
  · intro entries result taken found
    cases result with
    | error error => rfl
    | ok decoded =>
        obtain ⟨marked, text, _, held, -⟩ := Go.openEnvelope_eq_ok.mp taken
        rw [Go.isOk_openEnvelope goAgrees taken]
        rw [someObject_marked marked held] at found
        simpa [someObject] using found

include goAgrees in
theorem Go.accepting_openEnvelope :
    Accepting (Go.openEnvelope decodeString) isMalformed := by
  intro entries result taken good
  rw [Go.isOk_openEnvelope goAgrees taken, good]
  rfl

/-- What the TypeScript client takes for an envelope. -/
theorem TypeScript.openEnvelope_eq_some {entries : List (String × Value)}
    {result : Except String Value} :
    TypeScript.openEnvelope atob entries = some result ↔
      isMarked entries = true ∧ ∃ text,
        Entries.lookup entries "data" = some (.str text) ∧
          result = (atob text).map .bytes := by
  unfold TypeScript.openEnvelope
  split
  · rename_i marked
    split
    · rename_i text held
      simp [marked, held, eq_comm]
    · rename_i noText
      simp only [reduceCtorEq, marked, true_and, false_iff, not_exists,
        not_and]
      intro text held
      exact absurd held (noText text)
  · rename_i unmarked
    simp [unmarked]

include atobAgrees in
theorem TypeScript.isOk_openEnvelope {entries : List (String × Value)}
    {result : Except String Value}
    (taken : TypeScript.openEnvelope atob entries = some result) :
    result.isOk = !isInvalidEnvelope entries := by
  obtain ⟨marked, text, held, rfl⟩ :=
    TypeScript.openEnvelope_eq_some.mp taken
  have decodes := isOk_of_agrees atobAgrees text
  simp only [isInvalidEnvelope, marked, held, Bool.true_and,
    Option.not_isNone, ← decodes]
  cases atob text <;> rfl

include atobAgrees in
theorem TypeScript.rejecting_openEnvelope :
    Rejecting (TypeScript.openEnvelope atob) isInvalidEnvelope := by
  constructor
  · intro entries untaken
    by_contra invalid
    rw [Bool.not_eq_false, isInvalidEnvelope, Bool.and_eq_true] at invalid
    obtain ⟨marked, held⟩ := invalid
    split at held
    · rename_i text found
      have taken := (@TypeScript.openEnvelope_eq_some atob entries _).mpr
        ⟨marked, text, found, rfl⟩
      rw [untaken] at taken
      cases taken
    · cases held
  · intro entries result taken found
    rw [TypeScript.isOk_openEnvelope atobAgrees taken]
    obtain ⟨marked, text, held, -⟩ :=
      TypeScript.openEnvelope_eq_some.mp taken
    rw [someObject_marked marked held] at found
    simpa [someObject] using found

include atobAgrees in
theorem TypeScript.accepting_openEnvelope :
    Accepting (TypeScript.openEnvelope atob) isInvalidEnvelope := by
  intro entries result taken valid
  rw [TypeScript.isOk_openEnvelope atobAgrees taken, valid]
  rfl

/-! ## Agreement -/

include goAgrees in
theorem Go.refines_python (host : Host) :
    Refines (Go.openEnvelope decodeString) (Urp.openEnvelope host) := by
  constructor
  · intro entries untaken
    have unmarked := Go.openEnvelope_eq_none.mp untaken
    simp [Urp.openEnvelope, envelopeData?_eq, unmarked]
  · intro entries decoded taken
    obtain ⟨marked, text, bytes, held, run, rfl⟩ :=
      Go.openEnvelope_eq_ok.mp taken
    have agreed := goAgrees text
    rw [run] at agreed
    simp only [Urp.openEnvelope, envelopeData?_eq, marked, if_true, held,
      Option.map_some, Host.str, str_str, ← agreed, Except.toOption]

include goAgrees atobAgrees in
theorem Go.refines_typeScript :
    Refines (Go.openEnvelope decodeString) (TypeScript.openEnvelope atob) := by
  constructor
  · intro entries untaken
    have unmarked := Go.openEnvelope_eq_none.mp untaken
    simp [TypeScript.openEnvelope, unmarked]
  · intro entries decoded taken
    obtain ⟨marked, text, bytes, held, run, rfl⟩ :=
      Go.openEnvelope_eq_ok.mp taken
    refine TypeScript.openEnvelope_eq_some.mpr ⟨marked, text, held, ?_⟩
    have agreed := (goAgrees text).trans (atobAgrees text).symm
    rw [run] at agreed
    cases other : atob text with
    | error error =>
        rw [other] at agreed
        cases agreed
    | ok others =>
        rw [other] at agreed
        cases agreed
        rfl

end Clients

/-- All three decoders give the same value, or all three reject. -/
def DecodersAgree (host : Host) (decodeString atob : String → Except String Bytes)
    (value : Value) : Prop :=
  (∃ decoded, decodeJsonValue host value = .ok decoded ∧
    Go.decodeJSONValue decodeString value = .ok decoded ∧
      TypeScript.decodeJsonValue atob value = .ok decoded) ∨
  ((decodeJsonValue host value).isOk = false ∧
    (Go.decodeJSONValue decodeString value).isOk = false ∧
      (TypeScript.decodeJsonValue atob value).isOk = false)

/-- The decoders agree on a value exactly if it has no loose envelope, or else
an envelope that all of them reject. -/
theorem decodersAgree_iff (host : Host)
    {decodeString atob : String → Except String Bytes}
    (goAgrees : ∀ text,
      (decodeString text).toOption = Base64.decode text.toList)
    (atobAgrees : ∀ text, (atob text).toOption = Base64.decode text.toList)
    (value : Value) :
    DecodersAgree host decodeString atob value ↔
      (someObject isLooseEnvelope value = true →
        someObject isInvalidEnvelope value = true) := by
  constructor
  · intro agree loose
    have refused : (Go.decodeJSONValue decodeString value).isOk = false := by
      apply decodeWith_rejects (Go.rejecting_openEnvelope goAgrees)
      rw [someObject_isMalformed, loose, Bool.or_true]
    by_contra valid
    have accepted := decodeWith_accepts
      (TypeScript.accepting_openEnvelope atobAgrees) value
        (Bool.not_eq_true _ ▸ valid)
    rcases agree with ⟨decoded, -, goRun, -⟩ | ⟨-, -, rejected⟩
    · rw [goRun] at refused
      cases refused
    · rw [TypeScript.decodeJsonValue, accepted] at rejected
      cases rejected
  · intro rejected
    cases invalid : someObject isInvalidEnvelope value with
    | true =>
        right
        refine ⟨?_, ?_, ?_⟩
        · rw [decodeJsonValue_eq]
          exact decodeWith_rejects (rejecting_openEnvelope host) value invalid
        · apply decodeWith_rejects (Go.rejecting_openEnvelope goAgrees)
          rw [someObject_isMalformed, invalid, Bool.true_or]
        · exact decodeWith_rejects
            (TypeScript.rejecting_openEnvelope atobAgrees) value invalid
    | false =>
        left
        have strict : someObject isLooseEnvelope value = false := by
          by_contra loose
          rw [rejected (Bool.not_eq_false _ ▸ loose)] at invalid
          cases invalid
        have accepted := decodeWith_accepts
          (Go.accepting_openEnvelope goAgrees) value (by
            rw [someObject_isMalformed, invalid, strict, Bool.or_self])
        cases run : Go.decodeJSONValue decodeString value with
        | error error =>
            rw [← Go.decodeJSONValue, run] at accepted
            cases accepted
        | ok decoded =>
            refine ⟨decoded, ?_, rfl, ?_⟩
            · rw [decodeJsonValue_eq]
              exact decodeWith_refines (Go.refines_python goAgrees host) value
                run
            · exact decodeWith_refines
                (Go.refines_typeScript goAgrees atobAgrees) value run

/-- A base64 library with the error text of the Go one. -/
def sampleLibrary (text : String) : Except String Bytes :=
  match Base64.decode text.toList with
  | some bytes => .ok bytes
  | none => .error "illegal base64 data"

theorem sampleLibrary_agrees (text : String) :
    (sampleLibrary text).toOption = Base64.decode text.toList := by
  unfold sampleLibrary
  cases Base64.decode text.toList <;> rfl

/-- An envelope in a list, beside an object with the marker and other keys. -/
def nestedEnvelope : Value :=
  .list [.dict [("data", .str "aGk="), (encodingKey, .str "base64")],
    .dict [(encodingKey, .str "base64"), ("data", .int 5), ("size", .int 2)]]

theorem decodersAgree_iff_nested :
    DecodersAgree Host.counting sampleLibrary sampleLibrary nestedEnvelope :=
  (decodersAgree_iff Host.counting sampleLibrary_agrees sampleLibrary_agrees
    nestedEnvelope).mpr (by decide)

/-- An envelope with a number where the text should be. -/
def numberEnvelope : Value :=
  .dict [(encodingKey, .str "base64"), ("data", .int 1234)]

/-- Python decodes the digits of the number, the Go client rejects the object,
and the TypeScript client leaves it as it is. -/
theorem numberEnvelope_disagrees :
    decodeJsonValue Host.counting numberEnvelope =
        .ok (.bytes [215, 109, 248]) ∧
      Go.decodeJSONValue sampleLibrary numberEnvelope =
        .error "base64 envelope data must be a string" ∧
      TypeScript.decodeJsonValue sampleLibrary numberEnvelope =
        .ok numberEnvelope ∧
      ¬ DecodersAgree Host.counting sampleLibrary sampleLibrary
        numberEnvelope := by
  have go : Go.decodeJSONValue sampleLibrary numberEnvelope =
      .error "base64 envelope data must be a string" := rfl
  have typeScript : TypeScript.decodeJsonValue sampleLibrary numberEnvelope =
      .ok numberEnvelope := rfl
  refine ⟨by rfl, go, typeScript, ?_⟩
  rintro (⟨decoded, -, run, -⟩ | ⟨-, -, rejected⟩)
  · rw [go] at run
    cases run
  · rw [typeScript] at rejected
    cases rejected

end Urp
