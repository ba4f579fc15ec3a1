import Urp.ContextBudgets
import Urp.HitProgress
import Urp.ModelAllowlist

/-!
# Tool replies

A tool message answers the call that its `tool_call_id` names.  The compiled
context drops it as a repetition when another one has the same text, so that a
call may be left without its reply.
-/

namespace Urp

open Python Program Greedy

/-! ## Repeated fingerprints -/

/-- The chunk of a governed message. -/
def contextChunk (host : Host) (message : Object) (index : Nat) :
    ContextChunk where
  text := host.str (message.getD "content" (.str ""))
  sourceId := sourceId index
  metadata := .ofList [("role", message.get "role")]

/-- The fingerprint of a message, wherever it stands. -/
def messageMark (host : Host) (message : Object) : String :=
  (contextChunk host message 0).fingerprint

section Marks

variable {maxTokens : Int} {chunks taken : List ContextChunk}

theorem contextTokens_le_of_sublist {some all : List ContextChunk}
    (sublist : some.Sublist all) : contextTokens some ≤ contextTokens all := by
  induction sublist with
  | slnil => exact Nat.le_refl _
  | cons chunk _ ih =>
      have whole := contextTokens_append [chunk] ‹List ContextChunk›
      rw [List.singleton_append] at whole
      omega
  | cons_cons chunk _ ih =>
      simp only [contextTokens, List.map_cons, List.sum_cons] at ih ⊢
      omega

/-- With room for all, a mark only tells whether the fingerprint is new. -/
theorem mark_of_room
    (fits : (contextTokens chunks : Int) ≤ maxTokens)
    {early late : List (ContextChunk × Bool)} {chunk : ContextChunk}
    {flag : Bool}
    (split : contextMarks maxTokens chunks = early ++ (chunk, flag) :: late) :
    flag = decide (chunk.fingerprint ∉
      (kept early).map ContextChunk.fingerprint) := by
  have answered := mark_of_split (admitsChunk maxTokens) split
  rw [List.nil_append] at answered
  have all := map_fst_marks (admitsChunk maxTokens) [] chunks
  unfold contextMarks at split
  rw [split] at all
  have within : (contextTokens (kept early) +
      approximateTokens chunk.text : Nat) ≤ maxTokens := by
    have shorter : contextTokens (kept early ++ [chunk]) ≤
        contextTokens chunks := by
      apply contextTokens_le_of_sublist
      rw [← all, List.map_append, List.map_cons]
      apply (kept_sublist early).append
      exact List.Sublist.cons_cons chunk (List.nil_sublist _)
    rw [contextTokens_append, contextTokens_singleton] at shorter
    omega
  rw [answered]
  apply decide_eq_decide.mpr
  exact and_iff_left within

/-- With room for all, a chunk goes exactly if an earlier one has its
fingerprint. -/
theorem mark_of_fits
    (fits : (contextTokens chunks : Int) ≤ maxTokens)
    {early late : List (ContextChunk × Bool)} {chunk : ContextChunk}
    {flag : Bool}
    (split : contextMarks maxTokens chunks = early ++ (chunk, flag) :: late) :
    flag = decide (chunk.fingerprint ∉
      (early.map Prod.fst).map ContextChunk.fingerprint) := by
  rw [mark_of_room fits split]
  apply decide_eq_decide.mpr
  constructor
  · intro fresh listed
    obtain ⟨other, shown, same⟩ := List.mem_map.mp listed
    obtain ⟨⟨first, state⟩, member, given⟩ := List.mem_map.mp shown
    cases given
    cases state with
    | true =>
        exact fresh (List.mem_map.mpr ⟨first, mem_kept_iff.mpr member, same⟩)
    | false =>
        -- A dropped chunk repeats one that was kept before it.
        obtain ⟨before, after, rfl⟩ := List.append_of_mem member
        rw [List.append_assoc, List.cons_append] at split
        have repeated := of_decide_eq_false (mark_of_room fits split).symm
        obtain ⟨one, keptOne, equal⟩ := List.mem_map.mp (not_not.mp repeated)
        apply fresh
        rw [← same]
        apply List.mem_map.mpr
        refine ⟨one, ?_, equal⟩
        rw [mem_kept_iff] at keptOne ⊢
        exact List.mem_append_left _ keptOne
  · intro fresh listed
    apply fresh
    obtain ⟨one, member, same⟩ := List.mem_map.mp listed
    exact List.mem_map.mpr ⟨one, (kept_sublist early).subset member, same⟩

end Marks

/-! ## Replies among the messages -/

def isToolMessage (message : Object) : Bool := roleText message == "tool"

theorem isGoverned_of_tool {message : Object}
    (tool : isToolMessage message = true) : isGoverned message = true := by
  have role : roleText message = "tool" := beq_iff_eq.mp tool
  simp [isGoverned, role]

/-- The calls that the tool messages answer. -/
def toolCallIds (messages : List Object) : List Value :=
  (messages.filter isToolMessage).map fun message => message.get "tool_call_id"

/-- No tool message has the fingerprint of a governed message before it. -/
def RepeatsNoReply (host : Host) (messages : List Object) : Prop :=
  ∀ early message late, messages = early ++ message :: late →
    isToolMessage message = true → ∀ other ∈ early, isGoverned other = true →
      messageMark host other ≠ messageMark host message

section Messages

variable {host : Host} {maxTokens : Int} {messages : List Object}

theorem keptMessages_subset (messages : List Object) (flags : List Bool) :
    keptMessages messages flags ⊆ messages := by
  induction messages generalizing flags with
  | nil => simp [keptMessages]
  | cons message rest ih =>
      intro other member
      rw [keptMessages] at member
      split at member
      · rcases List.mem_append.mp member with own | later
        · split at own
          · rw [List.mem_singleton.mp own]
            exact List.mem_cons_self
          · cases own
        · exact List.mem_cons_of_mem _ (ih _ later)
      · rcases List.mem_cons.mp member with rfl | later
        · exact List.mem_cons_self
        · exact List.mem_cons_of_mem _ (ih _ later)

theorem keptMessages_append {early late : List Object}
    {flags others : List Bool}
    (enough : flags.length = (early.filter isGoverned).length) :
    keptMessages (early ++ late) (flags ++ others) =
      keptMessages early flags ++ keptMessages late others := by
  induction early generalizing flags with
  | nil =>
      have none : flags = [] := List.length_eq_zero_iff.mp enough
      subst none
      rfl
  | cons message rest ih =>
      rw [List.cons_append, keptMessages, keptMessages]
      cases governed : isGoverned message with
      | true =>
          rw [List.filter_cons_of_pos governed, List.length_cons] at enough
          cases flags with
          | nil => cases enough
          | cons flag flags =>
              have later := ih (Nat.succ.inj enough)
              simp [later]
      | false =>
          rw [List.filter_cons_of_neg (by simp [governed])] at enough
          simp [ih enough]

theorem map_fst_governed (messages : List Object) (start : Nat) :
    ((messages.zipIdx start).filter fun item => isGoverned item.1).map
      Prod.fst = messages.filter isGoverned := by
  induction messages generalizing start with
  | nil => rfl
  | cons message rest ih =>
      rw [List.zipIdx_cons]
      cases governed : isGoverned message with
      | true => simp [governed, ih]
      | false => simp [governed, ih]

/-- The fingerprints of the chunks are those of the governed messages. -/
theorem fingerprints_contextChunks (host : Host) (messages : List Object) :
    (contextChunksFromOpenaiMessages host messages).map
        ContextChunk.fingerprint =
      (messages.filter isGoverned).map (messageMark host) := by
  rw [← map_fst_governed messages 0]
  unfold contextChunksFromOpenaiMessages
  rw [List.map_map, List.map_map]
  rfl

theorem contextChunks_split (early late : List Object) {message : Object}
    (governed : isGoverned message = true) :
    ∃ rest, contextChunksFromOpenaiMessages host (early ++ message :: late) =
      contextChunksFromOpenaiMessages host early ++
        contextChunk host message early.length :: rest := by
  refine ⟨((late.zipIdx (early.length + 1)).filter fun item =>
    isGoverned item.1).map fun item => contextChunk host item.1 item.2, ?_⟩
  unfold contextChunksFromOpenaiMessages
  rw [List.zipIdx_append, List.zipIdx_cons, List.filter_append,
    List.filter_cons_of_pos (by simpa using governed), List.map_append,
    List.map_cons]
  simp [contextChunk]

/-- A reply stays exactly if its fingerprint is new. -/
theorem reply_stays_iff {early late : List Object} {message : Object}
    (split : messages = early ++ message :: late)
    (tool : isToolMessage message = true)
    (distinct : (toolCallIds messages).Nodup)
    (fits : (contextTokens (contextChunksFromOpenaiMessages host messages) :
      Int) ≤ maxTokens) :
    message ∈ (compileOpenaiMessages host messages maxTokens).2 ↔
      ∀ other ∈ early, isGoverned other = true →
        messageMark host other ≠ messageMark host message := by
  have governed := isGoverned_of_tool tool
  obtain ⟨rest, chunks⟩ := @contextChunks_split host early late _ governed
  rw [← split] at chunks
  -- The marks split where the chunk of the message stands.
  have all := map_fst_marks (admitsChunk maxTokens) []
    (contextChunksFromOpenaiMessages host messages)
  rw [chunks] at all
  obtain ⟨first, others, marked, firsts, tail⟩ := List.map_eq_append_iff.mp all
  obtain ⟨⟨chunk, flag⟩, last, rfl, same, -⟩ := List.map_eq_cons_iff.mp tail
  cases same
  have flagged := mark_of_fits fits (show contextMarks maxTokens _ = _ by
    unfold contextMarks
    rw [chunks]
    exact marked)
  have enough : (first.map Prod.snd).length =
      (early.filter isGoverned).length := by
    have lengths := congrArg List.length
      (fingerprints_contextChunks host early)
    rw [List.length_map, List.length_map, ← firsts, List.length_map] at lengths
    rw [List.length_map, lengths]
  have result : (compileOpenaiMessages host messages maxTokens).2 =
      keptMessages early (first.map Prod.snd) ++
        ((if flag then [message] else []) ++
          keptMessages late (last.map Prod.snd)) := by
    rw [compileOpenaiMessages_eq]
    unfold contextMarks
    rw [chunks, marked, split, List.map_append, List.map_cons,
      keptMessages_append enough, keptMessages, if_pos governed]
    simp
  have elsewhere : message ∉ early ∧ message ∉ late := by
    unfold toolCallIds at distinct
    rw [split, List.filter_append, List.filter_cons_of_pos tool,
      List.map_append, List.map_cons] at distinct
    obtain ⟨-, own, apart⟩ := List.nodup_append.mp distinct
    constructor
    · intro member
      exact apart _ (List.mem_map_of_mem (List.mem_filter.mpr ⟨member, tool⟩))
        _ List.mem_cons_self rfl
    · intro member
      exact (List.nodup_cons.mp own).1
        (List.mem_map_of_mem (List.mem_filter.mpr ⟨member, tool⟩))
  have staying : message ∈ (compileOpenaiMessages host messages maxTokens).2 ↔
      flag = true := by
    rw [result, List.mem_append, List.mem_append]
    constructor
    · rintro (member | own | member)
      · exact absurd (keptMessages_subset early _ member) elsewhere.1
      · cases flag with
        | true => rfl
        | false => cases own
      · exact absurd (keptMessages_subset late _ member) elsewhere.2
    · intro kept
      rw [kept]
      exact .inr (.inl List.mem_cons_self)
  rw [staying, flagged, decide_eq_true_eq, firsts,
    fingerprints_contextChunks host early]
  constructor
  · intro fresh other member governed same
    exact fresh (List.mem_map.mpr
      ⟨other, List.mem_filter.mpr ⟨member, governed⟩, same⟩)
  · intro apart listed
    obtain ⟨other, member, same⟩ := List.mem_map.mp listed
    obtain ⟨member, governed⟩ := List.mem_filter.mp member
    exact apart other member governed same

theorem replies_stay_iff (distinct : (toolCallIds messages).Nodup)
    (fits : (contextTokens (contextChunksFromOpenaiMessages host messages) :
      Int) ≤ maxTokens) :
    (∀ message ∈ messages, isToolMessage message = true →
      message ∈ (compileOpenaiMessages host messages maxTokens).2) ↔
        RepeatsNoReply host messages := by
  constructor
  · intro stays early message late split tool
    apply (reply_stays_iff split tool distinct fits).mp
    apply stays message _ tool
    rw [split]
    simp
  · intro repeatsNone message member tool
    obtain ⟨early, late, split⟩ := List.append_of_mem member
    exact (reply_stays_iff split tool distinct fits).mpr
      (repeatsNone early message late split tool)

end Messages

/-! ## What the provider is sent -/

/-- The messages of a request to the provider. -/
def sentMessages (request : Object) : List Value :=
  match request.get "messages" with
  | .list messages => messages
  | _ => []

/-- The tool messages answer different calls, and the governed messages fit
the request's budget. -/
structure ChatSetup.HasRoom (host : Host) (setup : ChatSetup) : Prop where
  distinct : (toolCallIds setup.normalized.messages).Nodup
  fits : ∀ maxTokens, ChatCall.maxContextTokens host setup = .ok maxTokens →
    (contextTokens (contextChunksFromOpenaiMessages host
      setup.normalized.messages) : Int) ≤ maxTokens

section Requests

variable {host : Host} {provider : ChatProvider} {call : ChatCall}
  {gateway : Gateway} {chat : Chat}

/-- Every call of the provider has all the tool messages of the request. -/
def SendsReplies (host : Host) (provider : ChatProvider) (call : ChatCall)
    (gateway : Gateway) : Prop :=
  ∀ asked ∈ newCalls gateway
      (handleChatCompletion host provider call gateway).2,
    ∃ setup, call.setup host = .ok setup ∧
      ∀ message ∈ setup.normalized.messages, isToolMessage message = true →
        message.toValue ∈ sentMessages asked.request

theorem sentMessages_normalized (normalized : NormalizedRequest) :
    sentMessages normalized.data =
      normalized.messages.map Object.toValue := by
  have found : normalized.data.get "messages" =
      .list (normalized.messages.map Object.toValue) := by
    unfold Object.get Object.getD
    rw [normalized.messages_eq]
    rfl
  simp only [sentMessages, found]

theorem sentMessages_applied (applied : chat.contextApplied = true) :
    sentMessages chat.providerRequest =
      chat.compiledMessages.map Object.toValue := by
  have found : chat.providerRequest.get "messages" =
      .list (chat.compiledMessages.map Object.toValue) := by
    unfold Chat.providerRequest Object.get Object.getD
    rw [if_pos applied, Dict.lookup_insert_self]
    rfl
  simp only [sentMessages, found]

theorem exists_strongestModel {models : List String} (nonempty : models ≠ []) :
    ∃ model, strongestModel models = .ok model := by
  unfold strongestModel
  rw [List.getLast?_eq_some_getLast nonempty]
  split
  · exact ⟨_, rfl⟩
  · exact ⟨_, rfl⟩

theorem exists_firstModel (route : ModelRoute)
    (nonempty : chat.policy.modelAllowlist ≠ []) :
    ∃ model, chat.firstModel host route = .ok model := by
  simp only [Chat.firstModel, baselineModel]
  split
  · exact ⟨_, rfl⟩
  · split
    · exact ⟨_, rfl⟩
    · exact exists_strongestModel nonempty

/-- With the context applied, the first call has every reply exactly if none
is repeated. -/
theorem providerRequest_replies_iff {admitted : Gateway}
    (prepared : prepareChat host call gateway = (.ok chat, admitted))
    (room : chat.setup.HasRoom host) (applied : chat.contextApplied = true) :
    (∀ message ∈ chat.setup.normalized.messages,
      isToolMessage message = true →
        message.toValue ∈ sentMessages chat.providerRequest) ↔
      RepeatsNoReply host chat.setup.normalized.messages := by
  obtain ⟨maxTokens, bounded, compiled⟩ :=
    compiledMessages_of_prepared host (congrArg Prod.fst prepared)
  rw [← replies_stay_iff room.distinct (room.fits maxTokens bounded),
    ← compiled, sentMessages_applied applied]
  constructor
  · intro sends message member tool
    obtain ⟨other, listed, same⟩ :=
      List.mem_map.mp (sends message member tool)
    rw [← Object.eq_of_toValue same]
    exact listed
  · intro stays message member tool
    exact List.mem_map_of_mem (stays message member tool)

theorem repeatsNoReply_of_sends {admitted : Gateway}
    (sends : SendsReplies host provider call gateway)
    (prepared : prepareChat host call gateway = (.ok chat, admitted))
    (room : chat.setup.HasRoom host) (reaches : ReachesProvider host chat admitted)
    (applied : chat.contextApplied = true) :
    RepeatsNoReply host chat.setup.normalized.messages := by
  have origin := (ensures_prepareChat host call gateway).of_ok prepared
  have nonempty : chat.policy.modelAllowlist ≠ [] :=
    modelAllowlist_ne_nil origin.admitted.policy
  apply (providerRequest_replies_iff prepared room applied).mp
  obtain ⟨asked, new, ⟨unreached, -⟩ | ⟨-, route, -, calls⟩⟩ :=
    newCalls_prepared host provider call prepared
  · exact absurd reaches unreached
  · have first : ∃ made ∈ asked, made.request = chat.providerRequest := by
      cases calls with
      | unnamed failed =>
          obtain ⟨model, chosen⟩ := @exists_firstModel host chat route nonempty
          rw [chosen] at failed
          cases failed
      | once chosen => exact ⟨_, List.mem_cons_self, rfl⟩
      | twice chosen fallback => exact ⟨_, List.mem_cons_self, rfl⟩
    obtain ⟨made, member, request⟩ := first
    obtain ⟨setup, ready, replies⟩ := sends made (by rw [new]; exact member)
    rw [origin.setup] at ready
    cases ready
    rw [← request]
    exact replies

/-- The provider gets every tool reply exactly if, whenever the compiled context
is sent to it, no reply has the fingerprint of a governed message before. -/
theorem sendsReplies_iff (host : Host) (provider : ChatProvider)
    (call : ChatCall) (gateway : Gateway)
    (room : ∀ setup, call.setup host = .ok setup → setup.HasRoom host) :
    SendsReplies host provider call gateway ↔
      ∀ chat admitted, prepareChat host call gateway = (.ok chat, admitted) →
        ReachesProvider host chat admitted → chat.contextApplied = true →
          RepeatsNoReply host chat.setup.normalized.messages := by
  constructor
  · intro sends chat admitted prepared reaches applied
    have origin := (ensures_prepareChat host call gateway).of_ok prepared
    exact repeatsNoReply_of_sends sends prepared (room _ origin.setup) reaches
      applied
  · intro repeatsNone made new
    obtain ⟨chat, admitted, route, asked, prepared, reaches, -, calls, member⟩ :=
      asked_of_mem_newCalls host provider call new
    have origin := (ensures_prepareChat host call gateway).of_ok prepared
    refine ⟨chat.setup, origin.setup, ?_⟩
    have whole : ∀ message ∈ chat.setup.normalized.messages,
        message.toValue ∈ sentMessages chat.setup.normalized.data := by
      intro message member
      rw [sentMessages_normalized]
      exact List.mem_map_of_mem member
    have first : ∀ message ∈ chat.setup.normalized.messages,
        isToolMessage message = true →
          message.toValue ∈ sentMessages chat.providerRequest := by
      cases applied : chat.contextApplied with
      | true =>
          exact (providerRequest_replies_iff prepared (room _ origin.setup)
            applied).mpr (repeatsNone chat admitted prepared reaches applied)
      | false =>
          intro message member _
          have plain : chat.providerRequest = chat.setup.normalized.data :=
            if_neg (by simp [applied])
          rw [plain]
          exact whole message member
    cases calls with
    | unnamed failed => cases member
    | once chosen =>
        rw [List.mem_singleton.mp member]
        exact first
    | twice chosen fallback =>
        rcases List.mem_pair.mp member with rfl | rfl
        · exact first
        · exact fun message member _ => whole message member

end Requests

/-- Two calls of a tool that both answer `ok`. -/
def twoToolsCall : ChatCall where
  request := .ofList [("messages", .list
    [.dict [("role", .str "user"), ("content", .str "Close both tickets.")],
      .dict [("role", .str "assistant"), ("content", .str ""),
        ("tool_calls", .list [.dict [("id", .str "call_a")],
          .dict [("id", .str "call_b")]])],
      .dict [("role", .str "tool"), ("tool_call_id", .str "call_a"),
        ("content", .str "ok")],
      .dict [("role", .str "tool"), ("tool_call_id", .str "call_b"),
        ("content", .str "ok")]])]

theorem messageMark_congr {host : Host} {left right : Object} {text : String}
    (content : left.getD "content" (.str "") = .str text)
    (others : right.getD "content" (.str "") = .str text)
    (role : left.get "role" = right.get "role") :
    messageMark host left = messageMark host right := by
  simp only [messageMark, contextChunk, ContextChunk.fingerprint, content,
    others, role]

/-- The messages of a request whose replies are said twice. -/
def repeatsReply (messages : List Object) : Bool :=
  match messages with
  | [_, _, first, second] =>
      isToolMessage first && isToolMessage second &&
        (first.getD "content" (.str "")).string? == some "ok" &&
        (second.getD "content" (.str "")).string? == some "ok" &&
        (first.get "role").string? == some "tool" &&
        (second.get "role").string? == some "tool"
  | _ => false

theorem not_repeatsNoReply {host : Host} {messages : List Object}
    (repeated : repeatsReply messages = true) :
    ¬ RepeatsNoReply host messages := by
  have text : ∀ {value : Value} {name : String},
      (value.string? == some name) = true → value = .str name := by
    intro value name given
    have found := beq_iff_eq.mp given
    cases value with
    | str own =>
        cases found
        rfl
    | none | bool _ | int _ | float _ | bytes _ | list _ | dict _ => cases found
  unfold repeatsReply at repeated
  split at repeated
  · rename_i one two first second
    simp only [Bool.and_eq_true] at repeated
    obtain ⟨⟨⟨⟨⟨tool, other⟩, content⟩, contents⟩, role⟩, roles⟩ := repeated
    intro repeatsNone
    apply repeatsNone [one, two, first] second [] rfl other first (by simp)
      (isGoverned_of_tool tool)
    exact messageMark_congr (text content) (text contents)
      ((text role).trans (text roles).symm)
  · cases repeated

/-- The forecast of an enforced request that fits its budget and says a reply
twice. -/
def Forecast.losesReply (host : Host) (forecast : Forecast) : Bool :=
  let setup := forecast.setup
  let messages := setup.normalized.messages
  !forecast.policy.requireApproval && setup.mode = .enforce &&
    "context_compile" ∈ forecast.actions &&
    !(setup.normalized.options.get "policy_bundle_id").isTruthy &&
    !ChatCall.allowsSemanticCache setup &&
    (match ChatCall.maxContextTokens host setup with
      | .ok maxTokens => decide ((contextTokens
          (contextChunksFromOpenaiMessages host messages) : Int) ≤ maxTokens)
      | .error _ => false) &&
    decide ((toolCallIds messages).map Value.string? =
      [some "call_a", some "call_b"]) &&
    repeatsReply messages

theorem twoToolsCall_forecast :
    ∃ forecast, twoToolsCall.forecast Host.counting none = .ok forecast ∧
      forecast.losesReply Host.counting = true :=
  exists_of_passes (by decide +kernel)

theorem twoToolsCall_hasRoom :
    ∀ setup, twoToolsCall.setup Host.counting = .ok setup →
      setup.HasRoom Host.counting := by
  obtain ⟨forecast, made, checked⟩ := twoToolsCall_forecast
  simp only [Forecast.losesReply, Bool.and_eq_true, decide_eq_true_eq]
    at checked
  obtain ⟨⟨⟨-, fits⟩, ids⟩, -⟩ := checked
  obtain ⟨own, ready, made⟩ := except_bind_eq_ok_iff.mp made
  have same : forecast.setup = own := by
    obtain ⟨_, -, made⟩ := except_bind_eq_ok_iff.mp made
    obtain ⟨_, -, made⟩ := except_bind_eq_ok_iff.mp made
    obtain ⟨_, -, made⟩ := except_bind_eq_ok_iff.mp made
    obtain ⟨_, -, made⟩ := except_bind_eq_ok_iff.mp made
    obtain ⟨_, -, made⟩ := except_bind_eq_ok_iff.mp made
    cases made
    rfl
  intro setup again
  rw [ready] at again
  cases again
  rw [same] at fits ids
  constructor
  · apply List.Nodup.of_map Value.string?
    rw [ids]
    decide
  · intro maxTokens bounded
    rw [bounded] at fits
    simpa using fits

/-- The second answer is lost. -/
theorem twoToolsCall_loses_reply :
    ¬ SendsReplies Host.counting (mockProvider Host.counting) twoToolsCall
      {} := by
  let host := Host.counting
  obtain ⟨forecast, made, checked⟩ := twoToolsCall_forecast
  simp only [Forecast.losesReply, Bool.and_eq_true, Bool.not_eq_true',
    decide_eq_true_eq] at checked
  obtain ⟨⟨⟨⟨⟨⟨⟨unapproved, enforced⟩, compiles⟩, unnamed⟩, plain⟩, -⟩, -⟩,
    repeated⟩ := checked
  have admissible := ChatCall.admissible_of_forecast made unapproved rfl
    (by decide)
  have healthy : ({} : Gateway).world.Healthy := ⟨[], by simp, rfl⟩
  obtain ⟨chat, admitted, prepared, on, decided⟩ :=
    admissible.prepareChat Host.counting_reliable healthy
      (governingBundle_unpublished rfl unnamed)
  have mode : chat.setup.mode = .enforce := by
    rw [decided.setup_eq]
    exact enforced
  have applied : chat.contextApplied = true := by
    unfold Chat.contextApplied Chat.performs
    rw [mode, decided.admission.actions_eq]
    simpa using compiles
  have uncached : ∀ key, admitted.caches.exact.lookup host key = none := by
    rw [on.caches_eq]
    exact fun _ => rfl
  have unshared : chat.semanticCacheEnabled = false := by
    unfold Chat.semanticCacheEnabled
    rw [decided.setup_eq, plain]
    simp
  have reaches : ReachesProvider host chat admitted :=
    ⟨admitted, admitted, exactLookup_empty uncached, by
      rw [semanticLookup_disabled unshared]
      rfl⟩
  have room : chat.setup.HasRoom host := by
    rw [decided.setup_eq]
    exact twoToolsCall_hasRoom _ admissible.setup_run
  intro sends
  have messages := repeatsNoReply_of_sends sends prepared room reaches applied
  rw [decided.setup_eq] at messages
  exact not_repeatsNoReply repeated messages

theorem sendsReplies_iff_twoTools :
    SendsReplies Host.counting (mockProvider Host.counting) twoToolsCall {} ↔
      ∀ chat admitted,
        prepareChat Host.counting twoToolsCall {} = (.ok chat, admitted) →
          ReachesProvider Host.counting chat admitted →
            chat.contextApplied = true →
              RepeatsNoReply Host.counting chat.setup.normalized.messages :=
  sendsReplies_iff _ _ _ _ twoToolsCall_hasRoom

end Urp
