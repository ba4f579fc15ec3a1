import Urp.ApprovalKeeps

/-!
# Approvals over runs

A call whose policy requires an approval gets past its gate exactly if an
approval that covers it was issued before and is not expired.
-/

namespace Urp

open Python Program

inductive ApprovalCall where
  | issue (session : Session) (request : ApprovalRequest)
  | governed (call : GovernedCall)

/-- What a call returned or raised. -/
inductive ApprovalReply where
  | issued (result : Except PyException ApprovalRecord)
  | governed (result : Except PyException Unit)

def approvalStep (host : Host) (gateway : Gateway) :
    ApprovalCall → ApprovalReply × Gateway
  | .issue session request =>
      let run := focus Gateway.worldLens (focus World.approvalsLens
        (ApprovalStore.issue host session request)) gateway
      (.issued run.1, run.2)
  | .governed call =>
      let run := call.run host gateway
      (.governed run.1, run.2)

abbrev ApprovalVisit : Type := Run.Visit Gateway ApprovalCall ApprovalReply

/-- The visit issued the record on the request. -/
structure Issues (v : ApprovalVisit) (request : ApprovalRequest)
    (record : ApprovalRecord) : Prop where
  input : ∃ session, v.input = .issue session request
  output : v.output = .issued (.ok record)

/-- The ruling names an approval that was issued and covers it now. -/
def Granted (host : Host) (history : List ApprovalVisit) (ruling : Ruling)
    (now : ℚ) : Prop :=
  ruling.approvalId.isTruthy = true ∧
    ∃ w ∈ history, ∃ request record, Issues w request record ∧
      record.approvalId = host.str ruling.approvalId ∧
        ApprovalStore.Covers request (host.clock w.before.supply.tick)
          ruling.workUnit ruling.policy.contract ruling.policy.policyBundleId now

/-- No plan, manifest or chunk is stored, no cache is written and no provider
is called. -/
structure Untouched (before after : Gateway) : Prop where
  plans : after.world.plans = before.world.plans
  manifests : after.world.manifests = before.world.manifests
  chunks : after.world.chunks = before.world.chunks
  caches : after.caches = before.caches
  calls : after.calls = before.calls

/-- A call whose ruling requires an approval passes the check of it if one is
granted at that time, and else raises and leaves all as it was. -/
def GatedBy (host : Host) (past : List ApprovalVisit) (v : ApprovalVisit) :
    Prop :=
  ∀ call ruling ruled, v.input = .governed call →
    call.rule host v.before = (.ok ruling, ruled) →
      ruling.policy.requireApproval = true →
        let now := host.clock ruled.supply.tick
        (Granted host past ruling now → ∃ later,
          verifyApproval host (host.str ruling.approvalId) ruling.workUnit
            ruling.policy ruled.world = (.ok (), later)) ∧
        (¬ Granted host past ruling now →
          (∃ error, v.output = .governed (.error error)) ∧
            Untouched v.before v.after)

/-- What is written for the expiry of an approval reads back. -/
def Host.ReadsExpiries (host : Host) : Prop :=
  ∀ k (ttl : Int), 0 < ttl → ttl ≤ 86400 →
    host.fromIsoformat (host.isoformat (host.clock k + ttl)) =
      some (host.clock k + ttl)

/-! ## The register of what was issued -/

/-- The approvals are the records that were issued. -/
structure Register (host : Host) (history : List ApprovalVisit)
    (world : World) : Prop where
  only : ∀ {approvalId record},
    world.approvals.lookup approvalId = some record →
      record.approvalId = approvalId ∧
        ∃ w ∈ history, ∃ request, Issues w request record
  kept : ∀ w ∈ history, ∀ {request record}, Issues w request record →
    ApprovalStore.Issued host request (host.clock w.before.supply.tick) record ∧
      world.approvals.lookup record.approvalId = some record ∧
        ∃ k < world.supply.nextId, record.approvalId = host.idText "appr" k

section Steps

variable {host : Host} {history : List ApprovalVisit}

theorem register_empty {world : World} (empty : world.approvals = ∅) :
    Register host [] world := by
  constructor
  · intro approvalId record found
    rw [empty] at found
    cases found
  · intro w member
    cases member

/-- The register does not depend on anything but the approvals. -/
theorem Register.later {world later : World}
    (register : Register host history world)
    (keeps : world.KeepsApprovals later) : Register host history later := by
  constructor
  · intro approvalId record found
    rw [keeps.approvals] at found
    exact register.only found
  · intro w member request record issues
    obtain ⟨issued, found, k, below, drawn⟩ := register.kept w member issues
    rw [keeps.approvals]
    exact ⟨issued, found, k, Nat.lt_of_lt_of_le below keeps.supply.1, drawn⟩

/-- A call that issues nothing keeps the register. -/
theorem Register.keeps {v : ApprovalVisit}
    (register : Register host history v.before.world)
    (keeps : v.before.KeepsApprovals v.after)
    (nothing : ∀ request record, ¬ Issues v request record) :
    Register host (history ++ [v]) v.after.world := by
  have later := register.later keeps
  constructor
  · intro approvalId record found
    obtain ⟨named, w, member, request, issues⟩ := later.only found
    exact ⟨named, w, List.mem_append_left _ member, request, issues⟩
  · rw [List.forall_mem_append, List.forall_mem_singleton]
    refine ⟨fun w member => later.kept w member, ?_⟩
    intro request record issues
    exact absurd issues (nothing request record)

/-- A record is issued under a new identifier. -/
theorem Register.issue (fresh : Function.Injective host.uuid4)
    {v : ApprovalVisit} {request : ApprovalRequest} {record : ApprovalRecord}
    (register : Register host history v.before.world)
    (issues : Issues v request record)
    (issued : ApprovalStore.Issued host request
      (host.clock v.before.supply.tick) record)
    (drawn : record.approvalId = host.idText "appr" v.before.supply.nextId)
    (approvals : v.after.world.approvals =
      v.before.world.approvals.insert record.approvalId record)
    (supply : v.after.supply.nextId = v.before.supply.nextId + 1) :
    Register host (history ++ [v]) v.after.world := by
  have after : v.after.world.supply.nextId = v.before.world.supply.nextId + 1 :=
    supply
  constructor
  · intro approvalId other found
    rw [approvals, Dict.lookup_insert] at found
    split at found
    · rename_i same
      cases found
      exact ⟨same, v, by simp, request, issues⟩
    · obtain ⟨named, w, member, before⟩ := register.only found
      exact ⟨named, w, List.mem_append_left _ member, before⟩
  · rw [List.forall_mem_append, List.forall_mem_singleton]
    constructor
    · intro w member asked other before
      obtain ⟨was, found, k, below, named⟩ := register.kept w member before
      refine ⟨was, ?_, k, by omega, named⟩
      rw [approvals, Dict.lookup_insert_ne]
      · exact found
      · intro same
        have equal := idText_injective fresh
          (drawn.symm.trans (same.trans named))
        change v.before.world.supply.nextId = k at equal
        omega
    · intro asked other again
      obtain ⟨⟨_, input⟩, output⟩ := issues
      obtain ⟨⟨_, input'⟩, output'⟩ := again
      rw [input] at input'
      rw [output] at output'
      cases input'
      cases output'
      refine ⟨issued, ?_, v.before.supply.nextId, ?_, drawn⟩
      · rw [approvals, Dict.lookup_insert_self]
      · rw [after]
        exact Nat.lt_succ_self _

theorem register_step (fresh : Function.Injective host.uuid4)
    {gateway : Gateway} (register : Register host history gateway.world)
    (call : ApprovalCall) :
    Register host (history ++ [Run.visit (approvalStep host) gateway call])
      (approvalStep host gateway call).2.world := by
  cases call with
  | governed call =>
      apply register.keeps (v := Run.visit (approvalStep host) gateway
        (.governed call)) (keeps_governed call gateway)
      rintro request record ⟨⟨_, input⟩, -⟩
      cases input
  | issue session request =>
      let v := Run.visit (approvalStep host) gateway (.issue session request)
      have spec := @ApprovalStore.ensures_issue host session request
        (World.approvalsLens.get gateway.world)
      rcases run : ApprovalStore.issue host session request
        (World.approvalsLens.get gateway.world) with ⟨error | record, later⟩
      · obtain ⟨files, supply⟩ := spec.of_error run
        have stepped : approvalStep host gateway (.issue session request) =
            (.issued (.error error), Gateway.worldLens.set gateway
              (World.approvalsLens.set gateway.world later)) := by
          simp only [approvalStep, focus, Gateway.worldLens, run]
        apply register.keeps (v := v)
        · change gateway.KeepsApprovals (approvalStep host gateway _).2
          rw [stepped]
          exact ⟨files, supply⟩
        · rintro other record ⟨-, output⟩
          change (approvalStep host gateway _).1 = _ at output
          rw [stepped] at output
          cases output
      · obtain ⟨issued, drawn, files, supply⟩ := spec.of_ok run
        have stepped : approvalStep host gateway (.issue session request) =
            (.issued (.ok record), Gateway.worldLens.set gateway
              (World.approvalsLens.set gateway.world later)) := by
          simp only [approvalStep, focus, Gateway.worldLens, run]
        have output : v.output = .issued (.ok record) :=
          congrArg Prod.fst stepped
        have after : v.after = Gateway.worldLens.set gateway
            (World.approvalsLens.set gateway.world later) :=
          congrArg Prod.snd stepped
        apply register.issue fresh (v := v) ⟨⟨session, rfl⟩, output⟩ issued drawn
        · rw [after]
          exact files
        · rw [after]
          exact supply

/-! ## The check of a ruling -/

variable {ruling : Ruling} {world : World}

theorem isApprovalFailure_of_checkRecord {record : ApprovalRecord} {now : ℚ}
    {workUnit : WorkUnit} {contract : Contract} {policyBundleId : String}
    {error : PyException}
    (failed : ApprovalStore.checkRecord host record now workUnit contract
      policyBundleId = .error error) : error.isApprovalFailure = true := by
  unfold ApprovalStore.checkRecord at failed
  split at failed
  · cases failed
    rfl
  · repeat' split at failed
    all_goals cases failed <;> rfl

/-- An issued record is read back. -/
theorem get_of_issued {request : ApprovalRequest} {created : ℚ}
    {record : ApprovalRecord} {state : ApprovalState}
    (issued : ApprovalStore.Issued host request created record)
    (found : state.files.lookup record.approvalId = some record) :
    ApprovalStore.get host record.approvalId state = (.ok record, state) := by
  unfold ApprovalStore.get
  rw [issued.accepted, lift_ok_bind, get_bind, found]
  simp only [issued.signed, lift_ok_bind, if_true]
  rfl

theorem verify_of_issued {request : ApprovalRequest} {created : ℚ}
    {record : ApprovalRecord} {state : ApprovalState}
    (issued : ApprovalStore.Issued host request created record)
    (found : state.files.lookup record.approvalId = some record)
    (workUnit : WorkUnit) (contract : Contract) (policyBundleId : String) :
    (ApprovalStore.verify host record.approvalId workUnit contract
        policyBundleId state).1 =
      ApprovalStore.checkRecord host record (host.clock state.supply.tick)
        workUnit contract policyBundleId := by
  unfold ApprovalStore.verify
  rw [bind_ok (get_of_issued issued found)]
  rfl

theorem ttl_of_checked {request : ApprovalRequest}
    (checked : request.check = .ok ()) :
    0 < request.ttlSeconds ∧ request.ttlSeconds ≤ 86400 := by
  unfold ApprovalRequest.check at checked
  split at checked
  · cases checked
  · rename_i inRange
    omega

/-- An issued record passes the check exactly for what it covers. -/
theorem checkRecord_of_issued (reads : host.ReadsExpiries)
    {request : ApprovalRequest} {k : Nat} {record : ApprovalRecord}
    (issued : ApprovalStore.Issued host request (host.clock k) record)
    (now : ℚ) (workUnit : WorkUnit) (contract : Contract)
    (policyBundleId : String) :
    ApprovalStore.checkRecord host record now workUnit contract policyBundleId =
        .ok record ↔
      ApprovalStore.Covers request (host.clock k) workUnit contract
        policyBundleId now := by
  obtain ⟨positive, bounded⟩ := ttl_of_checked issued.checked
  exact ApprovalStore.checkRecord_ok_iff issued
    (reads k request.ttlSeconds positive bounded) workUnit contract
    policyBundleId

theorem eq_of_checkRecord {record found : ApprovalRecord} {now : ℚ}
    {workUnit : WorkUnit} {contract : Contract} {policyBundleId : String}
    (passed : ApprovalStore.checkRecord host record now workUnit contract
      policyBundleId = .ok found) : found = record := by
  unfold ApprovalStore.checkRecord at passed
  split at passed
  · cases passed
  · repeat' split at passed
    all_goals cases passed
    rfl

theorem isApprovalFailure_of_invalid {value label start : String}
    {error : PyException}
    (invalid : validateIdentifier value label start = .error error) :
    error.isApprovalFailure = true := by
  unfold validateIdentifier at invalid
  repeat' split at invalid
  all_goals cases invalid <;> rfl

/-- Where the named approval is not granted, its check fails. -/
theorem Register.unverified (reads : host.ReadsExpiries)
    (register : Register host history world)
    (named : ruling.approvalId.isTruthy = true)
    (refused : ¬ Granted host history ruling (host.clock world.supply.tick)) :
    ∃ error later, ApprovalStore.verify host (host.str ruling.approvalId)
        ruling.workUnit ruling.policy.contract ruling.policy.policyBundleId
        (World.approvalsLens.get world) = (.error error, later) ∧
      error.isApprovalFailure = true := by
  cases valid : validateIdentifier (host.str ruling.approvalId) "approval id"
      "appr_" with
  | error error =>
      refine ⟨error, World.approvalsLens.get world, ?_,
        isApprovalFailure_of_invalid valid⟩
      apply bind_error
      rw [ApprovalStore.get, valid]
      rfl
  | ok approvalId =>
      obtain rfl := (validateIdentifier_eq_ok valid).1
      cases found : world.approvals.lookup (host.str ruling.approvalId) with
      | none =>
          refine ⟨ApprovalStore.missingApproval (host.str ruling.approvalId),
            World.approvalsLens.get world, ?_, rfl⟩
          apply bind_error
          rw [ApprovalStore.get, valid, lift_ok_bind, get_bind]
          simp only [World.approvalsLens, found]
          rfl
      | some record =>
          obtain ⟨same, w, member, request, issues⟩ := register.only found
          obtain ⟨issued, present, -⟩ := register.kept w member issues
          have checks : (ApprovalStore.verify host record.approvalId
              ruling.workUnit ruling.policy.contract
              ruling.policy.policyBundleId
              (World.approvalsLens.get world)).1 = _ :=
            verify_of_issued issued present ruling.workUnit
              ruling.policy.contract ruling.policy.policyBundleId
          rw [same] at checks
          cases check : ApprovalStore.checkRecord host record
              (host.clock world.supply.tick) ruling.workUnit
              ruling.policy.contract ruling.policy.policyBundleId with
          | error error =>
              exact ⟨error, _, Prod.ext (checks.trans check) rfl,
                isApprovalFailure_of_checkRecord check⟩
          | ok other =>
              obtain rfl := eq_of_checkRecord check
              exact absurd ⟨named, w, member, request, other, issues, same,
                (checkRecord_of_issued reads issued _ _ _ _).mp check⟩ refused

/-- A granted approval passes the check. -/
theorem Register.verified (reads : host.ReadsExpiries)
    (register : Register host history world)
    (granted : Granted host history ruling (host.clock world.supply.tick)) :
    ∃ later, verifyApproval host (host.str ruling.approvalId) ruling.workUnit
      ruling.policy world = (.ok (), later) := by
  obtain ⟨-, w, member, request, record, issues, named, covers⟩ := granted
  obtain ⟨issued, found, -⟩ := register.kept w member issues
  have checks : (ApprovalStore.verify host record.approvalId ruling.workUnit
      ruling.policy.contract ruling.policy.policyBundleId
      (World.approvalsLens.get world)).1 = _ :=
    verify_of_issued issued found ruling.workUnit ruling.policy.contract
      ruling.policy.policyBundleId
  have passes : ApprovalStore.checkRecord host record
      (host.clock world.supply.tick) ruling.workUnit ruling.policy.contract
        ruling.policy.policyBundleId = .ok record :=
    (checkRecord_of_issued reads issued _ _ _ _).mpr covers
  rw [named] at checks
  have run := focus_of_run (Prod.ext (checks.trans passes) rfl :
    ApprovalStore.verify host (host.str ruling.approvalId) ruling.workUnit
      ruling.policy.contract ruling.policy.policyBundleId
      (World.approvalsLens.get world) = (.ok record, _))
  exact ⟨_, bind_ok (rethrow_ok run _)⟩

end Steps

/-! ## Refused calls -/

section Refused

variable {host : Host} {gateway ruled : Gateway} {ruling : Ruling}

/-- A body that fails before anything is stored leaves all as it was. -/
theorem untouched_of_failed {α : Type} {body : Program World PyException α}
    {error : PyException} {later : World}
    (failed : body gateway.world = (.error error, later))
    (quiet : gateway.world.Quiet later)
    (plans : later.plans = gateway.world.plans) :
    ∃ final, focus Gateway.worldLens body gateway = (.error error, final) ∧
      Untouched gateway final :=
  ⟨_, focus_of_run failed, plans, quiet.manifests, quiet.chunks, rfl, rfl⟩

theorem execution_untouched {execution : Execution} {prepared : Prepared}
    (ready : execution.prepare host = .ok prepared)
    (unapproved : Ruling.Unapproved ⟨execution.workUnit, prepared.policy⟩ host
      gateway.world) :
    ∃ error final, focus Gateway.worldLens
        (executeExactObject host execution) gateway = (.error error, final) ∧
      Untouched gateway final := by
  obtain ⟨error, later, gate, -⟩ := requirePolicyApproval_denied rfl unapproved
  have quiet := (quiet_requirePolicyApproval host execution prepared).of_run gate
  have plans := (beside_plans.requirePolicyApproval host execution
    prepared).of_run gate
  exact ⟨error,
    untouched_of_failed (executeExactObject_refused ready gate) quiet plans⟩

theorem intake_untouched {request : AiRequest} {admission : Admission}
    {decided : World}
    (decides : decideAi host request gateway.world = (.ok admission, decided))
    (unapproved : Ruling.Unapproved ⟨admission.workUnit, admission.policy⟩ host
      decided) :
    ∃ error final, focus Gateway.worldLens (intake host request) gateway =
        (.error error, final) ∧ Untouched gateway final := by
  obtain ⟨error, later, refused, records⟩ := intake_denied decides unapproved
  have quiet := (quiet_intake host request).of_run refused
  have plans : later.plans = gateway.world.plans :=
    congrArg (fun records => records.2.1) records
  exact ⟨error, untouched_of_failed refused quiet plans⟩

/-- A call that is ruled to need an approval and has none fails, and leaves all
as it was. -/
theorem governed_untouched {call : GovernedCall}
    (rules : call.rule host gateway = (.ok ruling, ruled))
    (unapproved : ruling.Unapproved host ruled.world) :
    ∃ error final, call.run host gateway = (.error error, final) ∧
      Untouched gateway final := by
  cases call with
  | object execution =>
      obtain ⟨prepared, started, lifted, made⟩ := bind_eq_ok_iff.mp rules
      have ready : execution.prepare host = .ok prepared :=
        congrArg Prod.fst lifted
      obtain rfl : gateway = started := congrArg Prod.snd lifted
      cases made
      obtain ⟨error, final, run, same⟩ := execution_untouched ready unapproved
      exact ⟨error, final, bind_error run, same⟩
  | mock execution =>
      obtain ⟨prepared, started, lifted, made⟩ := bind_eq_ok_iff.mp rules
      have ready : execution.prepare host = .ok prepared :=
        congrArg Prod.fst lifted
      obtain rfl : gateway = started := congrArg Prod.snd lifted
      cases made
      have mocked : ∀ adapterName, ∃ error final, focus Gateway.worldLens
          (executeExactObject host { execution with adapterName }) gateway =
            (.error error, final) ∧ Untouched gateway final :=
        fun adapterName => by
          have ready' : ({ execution with adapterName } : Execution).prepare host =
            .ok prepared := ready
          exact execution_untouched ready' unapproved
      obtain ⟨error, final, run, same⟩ := mocked _
      exact ⟨error, final, bind_error run, same⟩
  | chat provider call =>
      obtain ⟨setup, started, lifted, rules⟩ := bind_eq_ok_iff.mp rules
      have ready : call.setup host = .ok setup := congrArg Prod.fst lifted
      obtain rfl : gateway = started := congrArg Prod.snd lifted
      obtain ⟨admission, decides, rfl⟩ := ruling_of_decideAi rules
      obtain ⟨error, final, run, same⟩ := intake_untouched decides unapproved
      refine ⟨error, final, ?_, same⟩
      apply bind_error
      apply bind_error
      unfold prepareChat
      rw [ready, lift_ok_bind]
      exact bind_error run
  | embedding call =>
      obtain ⟨setup, started, lifted, rules⟩ := bind_eq_ok_iff.mp rules
      have ready : call.setup host = .ok setup := congrArg Prod.fst lifted
      obtain rfl : gateway = started := congrArg Prod.snd lifted
      obtain ⟨admission, decides, rfl⟩ := ruling_of_decideAi rules
      obtain ⟨error, final, run, same⟩ := intake_untouched decides unapproved
      refine ⟨error, final, ?_, same⟩
      apply bind_error
      apply bind_error
      unfold prepareEmbedding
      rw [ready, lift_ok_bind]
      exact bind_error run

end Refused

/-! ## Runs -/

section Runs

variable {host : Host} (fresh : Function.Injective host.uuid4)
variable (reads : host.ReadsExpiries)
variable {gateway : Gateway} (empty : gateway.world.approvals = ∅)

include fresh empty

theorem register_run (calls : List ApprovalCall) :
    Register host (Run.visits (approvalStep host) gateway calls)
      (Run.final (approvalStep host) gateway calls).world := by
  have whole := @Run.visits_history_induction _ _ _ (approvalStep host)
    (fun history late => Register host history late.world)
  apply whole
  · exact register_empty empty
  · exact fun history late call register => register_step fresh register call

include reads

/-- In every run, what needs an approval passes its check exactly while an
approval that was issued for it lasts, and fails before it stores anything
otherwise. -/
theorem gated_by_approvals (calls : List ApprovalCall) :
    Run.Each (GatedBy host) (Run.visits (approvalStep host) gateway calls) := by
  intro past v rest split call ruling ruled input rules required now
  obtain ⟨early, late, -, rfl, visited⟩ := Run.visits_split split
  have before : v.before = Run.final (approvalStep host) gateway early :=
    congrArg Run.Visit.before visited
  have register := register_run fresh empty early
  rw [← before] at register
  have keeps := (keeps_rule call).of_run rules
  have decided := register.later keeps
  refine ⟨fun granted => decided.verified reads granted, fun refused => ?_⟩
  have unapproved : ruling.Unapproved host ruled.world :=
    ⟨required, fun named => decided.unverified reads named refused⟩
  obtain ⟨error, final, run, untouched⟩ := governed_untouched rules unapproved
  have stepped : approvalStep host v.before v.input =
      (.governed (.error error), final) := by
    rw [input, approvalStep, run]
  have output : v.output = (approvalStep host v.before v.input).1 := by
    rw [before]
    exact congrArg Run.Visit.output visited
  have after : v.after = (approvalStep host v.before v.input).2 := by
    rw [before]
    exact congrArg Run.Visit.after visited
  rw [output, after, stepped]
  exact ⟨⟨error, rfl⟩, untouched⟩

end Runs

/-! ## A sample -/

/-- A host whose times are written as that many strokes, with a signing key. -/
def Host.dated : Host :=
  { Host.counting with
    isoformat := fun seconds =>
      String.ofList (List.replicate seconds.num.toNat '|')
    fromIsoformat := fun text => some text.length
    dateTimeChecked := false
    approvalKey := .ok (List.replicate 32 7) }

theorem Host.dated_fresh : Function.Injective Host.dated.uuid4 :=
  Host.counting_fresh

theorem Host.dated_readsExpiries : Host.dated.ReadsExpiries := by
  intro k ttl positive _
  have whole : (Host.dated.clock k + ttl : ℚ) = ((k + ttl : Int) : ℚ) := by
    simp [dated, counting]
  have natural : ((k + ttl).toNat : Int) = k + ttl := Int.toNat_of_nonneg (by omega)
  rw [whole]
  simp only [dated, Rat.num_intCast, String.length_ofList,
    List.length_replicate, Option.some.injEq]
  rw [← Int.cast_natCast, natural]

/-- A file that needs an approval is executed before and after it is issued. -/
def sampleApprovalCalls : List ApprovalCall :=
  let approvalId := Host.counting.idText "appr" 0
  let file := heldExecution (.ofList [("approval_id", .str approvalId)])
  [.governed (.object file),
    .issue {} {
      tenant := "acme"
      actor := "ops"
      contract := "exact_bytes"
      policyBundleId := "default-safe"
      reason := "restore" },
    .governed (.object file)]

theorem gated_by_approvals_sample :
    Run.Each (GatedBy Host.dated)
      (Run.visits (approvalStep Host.dated) {} sampleApprovalCalls) :=
  gated_by_approvals Host.dated_fresh Host.dated_readsExpiries rfl
    sampleApprovalCalls

end Urp
