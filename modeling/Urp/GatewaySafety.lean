import Urp.ChatEnds
import Urp.ModelAllowlist

/-!
# Safety of the gateway against any provider

Whatever the provider replies, what is returned and what is stored passed the
check of the response and the verifiers of the decision, and a request that a
verifier refuses leaves nothing behind.
-/

namespace Urp

open Python Program

section Replies

variable (host : Host)

/-- The gateway's own entry is beside the choices. -/
theorem Served.lookup_withUrp (served : Served) (urp : List (String × Value)) :
    Value.entries? (served.withUrp urp) =
        some (Entries.insert served.entries "urp" (.dict urp)) ∧
      Entries.lookup (Entries.insert served.entries "urp" (.dict urp))
        "choices" = Entries.lookup served.entries "choices" := by
  refine ⟨rfl, ?_⟩
  rw [Entries.lookup_insert, if_neg (by decide)]

/-- An accepted response is a dictionary with its content. -/
theorem exists_entries_of_accepted {response : Value}
    (accepted : (verifyChatResponse host response).accepted = true) :
    ∃ entries, response = .dict entries := by
  cases response with
  | dict entries => exact ⟨entries, rfl⟩
  | _ => cases accepted

theorem verifyChatResponse_withUrp {served : Served}
    (accepted : (verifyChatResponse host served.response).accepted = true)
    (urp : List (String × Value)) :
    verifyChatResponse host (served.withUrp urp) =
      verifyChatResponse host served.response := by
  obtain ⟨entries, dict⟩ := exists_entries_of_accepted host accepted
  obtain ⟨entriesUrp, choices⟩ := served.lookup_withUrp urp
  have own : served.entries = entries := by simp [Served.entries, dict,
    Value.entries?]
  rw [own] at choices entriesUrp
  have content : assistantContent (served.withUrp urp) =
      assistantContent served.response := by
    unfold assistantContent
    rw [entriesUrp, dict]
    simp only [Value.entries?, Option.bind_eq_bind, Option.bind_some, choices]
  simp only [verifyChatResponse, content]

theorem citedContent_withUrp {served : Served}
    (accepted : (verifyChatResponse host served.response).accepted = true)
    (urp : List (String × Value)) :
    citedContent (served.withUrp urp) = citedContent served.response := by
  obtain ⟨entries, dict⟩ := exists_entries_of_accepted host accepted
  have own : served.entries = entries := by simp [Served.entries, dict,
    Value.entries?]
  have choices := (served.lookup_withUrp urp).2
  rw [own] at choices
  have same : Value.getD (Entries.insert served.entries "urp" (.dict urp))
      "choices" (.list [.dict []]) =
        Value.getD entries "choices" (.list [.dict []]) := by
    rw [own]
    simp only [Value.getD, choices]
  rw [dict]
  unfold Served.withUrp citedContent
  simp only [same]

/-- The reply passes what its response passed. -/
theorem Chat.Approves.chatReply {chat : Chat} {served : Served}
    (approved : chat.Approves host served.response) (manifest : Manifest) :
    chat.Approves host (chatReply host chat served manifest) := by
  have accepted := approved.accepted
  have verified := verifyChatResponse_withUrp host accepted
  constructor
  · unfold Urp.chatReply
    rw [verified]
    exact accepted
  · have required := approved.required
    unfold Chat.verifyRequired verifyRequiredAiVerifiers at required ⊢
    unfold Urp.chatReply
    rw [verified, citedContent_withUrp host accepted]
    exact required

end Replies

/-! ## Runs of chat requests -/

section Runs

variable (host : Host) (provider : ChatProvider)

/-- One chat request after another. -/
def chatStep (gateway : Gateway) (call : ChatCall) :
    Except PyException Value × Gateway :=
  handleChatCompletion host provider call gateway

abbrev ChatVisit : Type :=
  Run.Visit Gateway ChatCall (Except PyException Value)

/-- The decision in force for a visit is that of the prepared request. -/
def ChatVisit.Prepares (visit : ChatVisit) (chat : Chat) : Prop :=
  (prepareChat host visit.input visit.before).1 = .ok chat

/-- What holds of a visit, whatever the provider replies. -/
structure ChatVisit.Safe (visit : ChatVisit) : Prop where
  replied : ∀ reply, visit.output = .ok reply →
    ∃ chat, visit.Prepares host chat ∧ chat.Approves host reply
  stored : visit.before.Grows host
    (fun entry tick => ∃ chat, visit.Prepares host chat ∧
      chat.StoresExact host entry.value entry tick)
    (fun entry tick => ∃ chat, visit.Prepares host chat ∧
      chat.StoresSemantic host entry.value entry tick) visit.after
  asked : ∃ calls, visit.after.calls = visit.before.calls ++ calls ∧
    calls.length ≤ 2
  refused : ∀ error, visit.output = .error error →
    error.hasCode "verifier_failed" →
      visit.after.manifests = visit.before.manifests ∧
        visit.before.Shrinks host visit.after

theorem handleChatCompletion_asked (call : ChatCall) (gateway : Gateway) :
    ∃ calls, (handleChatCompletion host provider call gateway).2.calls =
      gateway.calls ++ calls ∧ calls.length ≤ 2 := by
  obtain ⟨_, refused, prepared, -⟩ | ⟨chat, admitted, -, before, after⟩ :=
    handleChatCompletion_calls host provider call gateway
  · refine ⟨[], ?_, Nat.zero_le 2⟩
    unfold handleChatCompletion
    rw [bind_error prepared, List.append_nil]
    exact (outside_calls.prepareChat host call).of_run prepared
  · obtain ⟨asked, calls, ended⟩ := serve_calls host provider chat admitted
    refine ⟨asked, by rw [after, calls, before], ?_⟩
    obtain ⟨-, rfl⟩ | ⟨-, route, -, made⟩ := ended
    · exact Nat.zero_le 2
    · exact made.length_le

variable {host provider}

/-- The rows that an approved response left were stored as its own. -/
theorem Approved.stored {call : ChatCall} {gateway later : Gateway}
    {chat : Chat} {served : Served}
    (approved : Approved host provider call gateway later chat served) :
    gateway.Grows host
      (fun entry tick => ∃ chat,
        (prepareChat host call gateway).1 = .ok chat ∧
          chat.StoresExact host entry.value entry tick)
      (fun entry tick => ∃ chat,
        (prepareChat host call gateway).1 = .ok chat ∧
          chat.StoresSemantic host entry.value entry tick) later := by
  obtain ⟨⟨admitted, prepared, -⟩, -, stores⟩ := approved
  apply Gateway.Grows.mono stores
  · rintro entry tick ⟨-, stored⟩
    refine ⟨chat, congrArg Prod.fst prepared, ?_⟩
    obtain ⟨-, -, ttl, -, rfl⟩ := id stored
    exact stored
  · rintro entry tick ⟨-, stored⟩
    refine ⟨chat, congrArg Prod.fst prepared, ?_⟩
    obtain ⟨-, -, ttl, -, rfl⟩ := id stored
    exact stored

/-- One request against any provider. -/
theorem chatStep_safe (gateway : Gateway) (call : ChatCall) :
    ChatVisit.Safe host (Run.visit (chatStep host provider) gateway call) := by
  have ends := ensures_handleChatCompletion host provider call gateway
  have asked := handleChatCompletion_asked host provider call gateway
  unfold Run.visit chatStep
  rcases run : handleChatCompletion host provider call gateway with
    ⟨error | reply, later⟩
  · rw [run] at asked
    rcases ends.of_error run with ⟨shrinks, same⟩ | ⟨other, chat, served,
      approved⟩
    · refine ⟨fun _ impossible => (nomatch impossible), ?_, asked,
        fun _ _ _ => ⟨same, shrinks⟩⟩
      exact Gateway.Shrinks.grows shrinks
    · refine ⟨fun _ impossible => (nomatch impossible), approved.stored, asked, ?_⟩
      rintro _ ⟨⟩ failed
      exact absurd failed other
  · rw [run] at asked
    obtain ⟨chat, served, manifest, rfl, approved⟩ := ends.of_ok run
    refine ⟨?_, approved.stored, asked, fun _ impossible => (nomatch impossible)⟩
    rintro _ ⟨⟩
    obtain ⟨admitted, prepared, -⟩ := approved.origin
    exact ⟨chat, congrArg Prod.fst prepared,
      approved.approved.chatReply host manifest⟩

variable (host provider)

theorem chatRun_safe (start : Gateway) (calls : List ChatCall) :
    ∀ visit ∈ Run.visits (chatStep host provider) start calls,
      ChatVisit.Safe host visit := by
  intro visit member
  obtain ⟨-, made⟩ := Run.visit_of_mem member
  rw [made]
  exact chatStep_safe visit.before visit.input

end Runs

theorem chatRun_safe_namedModel :
    ChatVisit.Safe Host.counting
      (Run.visit (chatStep Host.counting (mockProvider Host.counting)) {}
        namedModelCall) :=
  chatRun_safe Host.counting (mockProvider Host.counting) {} [namedModelCall]
    _ List.mem_cons_self

end Urp
