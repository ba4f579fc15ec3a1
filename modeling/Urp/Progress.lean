import Urp.ExactRoundTrip
import Urp.LedgerRuns
import Urp.PlainData

/-!
# Executions that return

From a ledger that reads back, recording a plain event returns and leaves such
a ledger, and an execution that its policy admits returns.
-/

namespace Urp

open Python Program

/-- What generated identifiers, times and scores are made of. -/
structure Host.Reliable (host : Host) : Prop where
  dateTime : ∀ seconds, isDateTime (host.isoformat seconds) = true
  nonempty : ∀ k, host.uuid4 k ≠ ""
  alphanumeric : ∀ k, ∀ c ∈ (host.uuid4 k).toList, c.isAlphanum = true
  scores : ∀ workUnit actions classification decision,
    ∀ score ∈ host.scorePlan workUnit actions classification decision,
      IsPlain score.2

theorem Host.counting_digits (k : Nat) :
    ∀ c ∈ (Host.counting.uuid4 k).toList, c.isDigit = true := by
  intro c member
  simp only [Host.counting, String.toList_ofList, List.mem_append,
    List.mem_replicate] at member
  rcases member with ⟨-, rfl⟩ | digit
  · rfl
  · exact Nat.isDigit_of_mem_toDigits (by decide) (by decide) digit

theorem Host.counting_reliable : Host.counting.Reliable := by
  constructor
  · intro seconds
    change isDateTime "2024-01-01T00:00:00+00:00" = true
    decide +kernel
  · intro k empty
    have none := congrArg String.toList empty
    simp [Host.counting, Nat.toDigits_ne_nil] at none
  · intro k c member
    simp [Char.isAlphanum, Host.counting_digits k c member]
  · intro _ _ _ _ _ member
    cases member

/-- The ledger holds events that read back. -/
def LedgerState.Healthy (ledger : LedgerState) : Prop :=
  ∃ events : List LedgerEvent, (∀ event ∈ events, event.Readable) ∧
    ledger.file = ledgerFile events

/-- The ledger holds events that read back. -/
def World.Healthy (world : World) : Prop :=
  ∃ events : List LedgerEvent, (∀ event ∈ events, event.Readable) ∧
    world.ledger.file = ledgerFile events

section Identifiers

variable {host : Host} (reliable : host.Reliable)

include reliable

theorem matchesIdPattern_idText (kind : String) (k : Nat) :
    matchesIdPattern (kind ++ "_") (host.idText kind k) = true := by
  have text : (host.idText kind k).toList =
      (kind ++ "_").toList ++ (host.uuid4 k).toList := by
    simp [Host.idText, String.toList_append]
  have nonempty : (host.uuid4 k).toList ≠ [] := fun empty =>
    reliable.nonempty k (String.toList_inj.mp empty)
  have alphanumeric := reliable.alphanumeric k
  have noNewline : withoutFinalNewline ((kind ++ "_").toList ++
      (host.uuid4 k).toList) =
        (kind ++ "_").toList ++ (host.uuid4 k).toList := by
    have last : ((kind ++ "_").toList ++ (host.uuid4 k).toList).getLast? ≠
        some '\n' := by
      rw [List.getLast?_append_of_ne_nil _ nonempty]
      intro same
      have letter := alphanumeric '\n' (List.mem_of_getLast? same)
      revert letter
      decide
    unfold withoutFinalNewline
    split
    · rename_i same
      exact absurd same last
    · rfl
  have dropped : ((kind ++ "_").toList ++ (host.uuid4 k).toList).drop
      (kind ++ "_").length = (host.uuid4 k).toList := by
    rw [← String.length_toList, List.drop_left]
  obtain ⟨c, rest, digits⟩ := List.exists_cons_of_ne_nil nonempty
  unfold matchesIdPattern
  rw [text, noNewline]
  simp only [dropped]
  rw [digits] at alphanumeric ⊢
  simp only [Bool.and_eq_true, List.isPrefixOf_iff_prefix, List.all_eq_true]
  refine ⟨List.prefix_append _ _, ?_⟩
  intro d member
  simp [alphanumeric d member]

end Identifiers

/-! ## Recording -/

/-- The body returns in a healthy world after drawing `drawn` identifiers. -/
def Proceeds {α : Type} (drawn : Nat) (body : Program World PyException α)
    (world : World) : Prop :=
  Ensures body world
    (fun _ later => later.Healthy ∧
      later.supply.nextId = world.supply.nextId + drawn)
    (fun _ _ => False)

theorem proceeds_bind {α β : Type} {first : Program World PyException α}
    {next : α → Program World PyException β} {world : World} {head tail : Nat}
    (started : Proceeds head first world)
    (rest : ∀ value later, later.Healthy →
      later.supply.nextId = world.supply.nextId + head →
        Proceeds tail (next value) later) :
    Proceeds (head + tail) (first >>= next) world := by
  unfold Proceeds
  rw [ensures_bind]
  apply Ensures.mono started
  · rintro value later ⟨healthy, drawn⟩
    apply (rest value later healthy drawn).mono
    · rintro result final ⟨finalHealthy, finalDrawn⟩
      refine ⟨finalHealthy, ?_⟩
      omega
    · exact fun _ _ impossible => impossible
  · exact fun _ _ impossible => impossible

/-- The event that `stamp` returns. -/
def LedgerEvent.stamped (host : Host) (event : LedgerEvent) (supply : Supply) :
    LedgerEvent :=
  { event with
    eventId := host.idText "evt" supply.nextId
    createdAt := host.isoformat (host.clock supply.tick) }

theorem stamp_run (host : Host) (event : LedgerEvent) (supply : Supply) :
    JSONLLedger.stamp host event supply =
      (.ok (event.stamped host supply),
        ⟨supply.nextId + 1, supply.tick + 1⟩) := rfl

/-- The conditions on an event that a healthy ledger takes. -/
structure LedgerEvent.Recordable (session : Session) (event : LedgerEvent) :
    Prop where
  admitted : requireTenant session event.tenant = .ok ()
  tenant : event.tenant ≠ ""
  details : IsPlain event.details.toValue

section Record

variable {host : Host} (reliable : host.Reliable)

include reliable

theorem LedgerEvent.Recordable.schemaValid {session : Session}
    {event : LedgerEvent} (recordable : event.Recordable session)
    (supply : Supply) : (event.stamped host supply).SchemaValid :=
  ⟨matchesIdPattern_idText reliable "evt" _, recordable.tenant,
    reliable.dateTime _, recordable.details.1, recordable.details.2⟩

/-- A recordable event is recorded, and the ledger still reads back. -/
theorem record_readable {session : Session} {event : LedgerEvent}
    (recordable : event.Recordable session) {ledger : LedgerState}
    (healthy : ledger.Healthy) :
    Returns (JSONLLedger.record host session event) ledger fun _ later =>
      later.Healthy ∧
        later.supply = ⟨ledger.supply.nextId + 1, ledger.supply.tick + 1⟩ := by
  obtain ⟨events, readable, file⟩ := healthy
  have valid := recordable.schemaValid reliable ledger.supply
  have same : ledger = ⟨ledgerFile events, ledger.supply⟩ := by
    rw [← file]
  have appended := @append_ledgerFile host _ _ _ valid recordable.admitted
    readable ⟨ledger.supply.nextId + 1, ledger.supply.tick + 1⟩
  let chained := (event.stamped host ledger.supply).withChainHash
    (lastHash events)
  have run : JSONLLedger.record host session event ledger =
      (.ok chained, ⟨ledgerFile (events ++ [chained]),
        ⟨ledger.supply.nextId + 1, ledger.supply.tick + 1⟩⟩) := by
    rw [same]
    exact appended
  refine ⟨chained, _, run, ⟨events ++ [chained], ?_, rfl⟩, rfl⟩
  rw [List.forall_mem_append, List.forall_mem_singleton]
  exact ⟨readable, (valid.withChainHash _).readable⟩

theorem proceeds_record {session : Session} {event : LedgerEvent}
    (recordable : event.Recordable session) {world : World}
    (healthy : world.Healthy) :
    Proceeds 1 (record host session event) world := by
  have ledger : world.ledger.Healthy := healthy
  obtain ⟨chained, later, run, stillHealthy, drawn⟩ :=
    record_readable reliable recordable ledger
  unfold Proceeds record
  rw [ensures_bind, ensures_focus]
  apply (ensures_of_run run).mpr
  exact ⟨stillHealthy, congrArg Supply.nextId drawn⟩

end Record

/-! ## Plans -/

theorem planRequest_eq_ok {host : Host} {workUnit : WorkUnit} {mode : Mode}
    {classification : Classification} {decision : PolicyDecision}
    {actions : List PlanAction} {expectation : List (String × Value)}
    {fallback : String} {plan : Plan}
    (planned : planRequest host workUnit mode classification decision actions
      expectation fallback = .ok plan) :
    ∃ kept, plan = planOf host workUnit mode classification decision kept
      .medium expectation fallback := by
  obtain ⟨kept, -, rest⟩ := except_bind_eq_ok_iff.mp planned
  obtain ⟨_, -, made⟩ := except_bind_eq_ok_iff.mp rest
  cases made
  exact ⟨kept, rfl⟩

/-- Every plan is made by `planOf`, with plain expectations. -/
theorem planWorkUnit_eq_ok {host : Host} {workUnit : WorkUnit} {mode : Mode}
    {bundle : Option PolicyBundle} {decision : PolicyDecision} {plan : Plan}
    (planned : planWorkUnit host workUnit mode bundle (some decision) =
      .ok plan) :
    ∃ actions risk expectation fallback,
      plan = planOf host workUnit mode (classify host workUnit) decision
        actions risk expectation fallback ∧
        ∀ entry ∈ expectation, IsPlain entry.2 := by
  unfold planWorkUnit at planned
  obtain ⟨chosen, same, planned⟩ := except_bind_eq_ok_iff.mp planned
  cases same
  split at planned
  · obtain ⟨kept, made⟩ := planRequest_eq_ok planned
    exact ⟨kept, _, _, _, made, by simp⟩
  · obtain ⟨kept, made⟩ := planRequest_eq_ok planned
    exact ⟨kept, _, _, _, made, by simp⟩
  · obtain ⟨kept, -, planned⟩ := except_bind_eq_ok_iff.mp planned
    obtain ⟨_, -, made⟩ := except_bind_eq_ok_iff.mp planned
    cases made
    exact ⟨_, _, _, _, rfl, by simp⟩

/-- A digest's digits after two letters and an underscore are an
identifier. -/
theorem validateIdentifier_digits (value : Value) :
    let text := "pl_" ++ String.ofList ((stableJsonHash value).toList.take 24)
    validateIdentifier text "plan id" "pl_" = .ok text := by
  intro text
  have shape : text.toList =
      'p' :: 'l' :: '_' :: (stableJsonHash value).toList.take 24 := by
    simp [text, String.toList_append]
  have identifier : ∀ c ∈ (stableJsonHash value).toList.take 24,
      isIdentifierChar c = true := by
    intro c member
    have every : "0123456789abcdef".toList.all isIdentifierChar = true := by
      decide
    have digit := sha256_digits (List.mem_of_mem_take member)
    exact List.all_eq_true.mp every c (by simpa [isHexDigit] using digit)
  have valid : isIdentifier text = true := by
    unfold isIdentifier
    rw [shape]
    simp only [List.all_cons, List.length_cons, Bool.and_eq_true,
      List.all_eq_true, decide_eq_true_eq, List.length_take]
    refine ⟨⟨by decide, by decide, by decide, identifier⟩, ?_⟩
    omega
  unfold validateIdentifier
  rw [valid, shape]
  rfl

theorem validateIdentifier_planId (workUnit : WorkUnit)
    (actions : List PlanAction) (mode : Mode) :
    validateIdentifier (planId workUnit actions mode) "plan id" "pl_" =
      .ok (planId workUnit actions mode) :=
  validateIdentifier_digits _

/-- A plan's record is plain. -/
theorem isPlain_planOf {host : Host} (reliable : host.Reliable)
    {workUnit : WorkUnit} {mode : Mode} {classification : Classification}
    {decision : PolicyDecision} {actions : List PlanAction} {risk : Risk}
    {expectation : List (String × Value)} {fallback : String}
    (plain : ∀ entry ∈ expectation, IsPlain entry.2) :
    IsPlain (planOf host workUnit mode classification decision actions risk
      expectation fallback).toDict := by
  apply Plan.isPlain_toDict
  apply isPlain_ofList
  intro entry member
  rcases List.mem_append.mp member with member | score
  · rcases List.mem_append.mp member with given | listed
    · exact plain entry given
    · simp only [List.mem_cons, List.not_mem_nil, or_false] at listed
      rcases listed with rfl | rfl | rfl <;> exact isPlain_texts _
  · exact reliable.scores _ _ _ _ entry score

theorem putPlan_run {session : Session} {plan : Plan}
    (admitted : requireTenant session plan.tenant = .ok ())
    (identifier : validateIdentifier plan.planId "plan id" "pl_" =
      .ok plan.planId) (world : World) :
    putPlan session plan world =
      (.ok (), { world with plans := world.plans.insert plan.planId plan }) := by
  unfold putPlan enforcePlanTenant
  rw [admitted, lift_ok_bind, identifier, lift_ok_bind]
  rfl

section Plans

variable {host : Host} (reliable : host.Reliable)

include reliable

/-- A plan of a work unit is stored, with an event. -/
theorem proceeds_storePlanWithAudit {session : Session} {workUnit : WorkUnit}
    {mode : Mode} {bundle : Option PolicyBundle} {decision : PolicyDecision}
    {plan : Plan}
    (planned : planWorkUnit host workUnit mode bundle (some decision) =
      .ok plan)
    (admitted : requireTenant session workUnit.tenant = .ok ())
    (tenant : workUnit.tenant ≠ "") {world : World} (healthy : world.Healthy) :
    Proceeds 1 (storePlanWithAudit host session plan workUnit) world := by
  obtain ⟨actions, risk, expectation, fallback, rfl, plain⟩ :=
    planWorkUnit_eq_ok planned
  have put := @putPlan_run session (planOf host workUnit mode
    (classify host workUnit) decision actions risk expectation fallback)
    admitted (validateIdentifier_planId workUnit actions mode) world
  unfold storePlanWithAudit Proceeds
  rw [ensures_bind]
  apply (ensures_of_run put).mpr
  refine proceeds_record reliable ⟨admitted, tenant, ?_⟩ healthy
  apply isPlain_ofList
  intro pair member
  rw [List.mem_singleton.mp member]
  exact isPlain_planOf reliable plain

theorem FileManifestStore.put_run {session : Session} {manifest : Manifest}
    {k : Nat} {seconds : ℚ}
    (admitted : requireTenant session manifest.tenant = .ok ())
    (valid : manifest.physical.validate = .ok ())
    (identified : manifest.manifestId = host.idText "mf" k)
    (identifier : validateIdentifier manifest.manifestId "manifest id" "mf_" =
      .ok manifest.manifestId)
    (created : manifest.createdAt = host.isoformat seconds)
    (files : ManifestFiles) :
    FileManifestStore.put host session manifest files =
      (.ok (), files.insert manifest.manifestId manifest.reloaded) := by
  have shaped : validateManifest host manifest = .ok () := by
    have named : matchesIdPattern "mf_" manifest.manifestId = true := by
      rw [identified]
      exact matchesIdPattern_idText reliable "mf" k
    have dated : passesDateTime host manifest.createdAt = true := by
      rw [created]
      simp [passesDateTime, reliable.dateTime]
    simp only [validateManifest, named, dated, valid]
    rfl
  unfold FileManifestStore.put enforceRequestTenant
  rw [admitted, lift_ok_bind, shaped, lift_ok_bind, identifier, lift_ok_bind]
  rfl

end Plans

end Urp
