import Urp.DenialAudit
import Urp.GatewayRuns
import Urp.WrittenManifests

/-!
# Plans and the manifests that name them

A plan is stored under an identifier that is a digest of a part of it, and
every manifest carries the plan of its call.  What each call does to the plan
store and to the plans of the manifests is said once, for all four ways to
write a manifest.
-/

namespace Urp

open Python Program

/-- A plan as it reads back from its file. -/
def Plan.reloaded (plan : Plan) : Plan :=
  { plan with expected := plan.expected.reloaded }

theorem Manifest.plan_reloaded (manifest : Manifest) :
    manifest.reloaded.plan = manifest.plan.reloaded := rfl

namespace World

variable (world : World)

/-- The record that the plan store has under an identifier. -/
def planRecord (planId : String) : Option Plan :=
  (world.plans.lookup planId).map Plan.reloaded

/-- Every manifest's plan is the record under its identifier. -/
def PlansStand : Prop :=
  ∀ manifestId manifest, world.manifests.lookup manifestId = some manifest →
    world.planRecord manifest.plan.planId = some manifest.plan

/-- No manifest has another plan under the identifier of this one. -/
def Unclaimed (plan : Plan) : Prop :=
  ∀ manifestId manifest, world.manifests.lookup manifestId = some manifest →
    manifest.plan.planId = plan.planId → manifest.plan = plan.reloaded

/-- The plan was stored, and nothing else of the two stores changed. -/
def Planned (plan : Plan) (later : World) : Prop :=
  later.evidence = (world.plans.insert plan.planId plan, world.manifests)

/-- The plan was stored, and every new manifest has it. -/
structure Follows (plan : Plan) (later : World) : Prop where
  plans : later.plans = world.plans.insert plan.planId plan
  manifests : world.PutsOnly (fun manifest => manifest.plan = plan) later

/-- Nothing is stored under another plan. -/
structure Stays (plan : Plan) (later : World) : Prop where
  plans : later.plans = world.plans
  manifests : world.PutsOnly (fun manifest => manifest.plan = plan) later

end World

instance (plan : Plan) : IsPreorder World (World.Stays · plan ·) where
  refl world := ⟨rfl, refl_of (World.PutsOnly _) world⟩
  trans _ _ _ early late :=
    ⟨late.plans.trans early.plans,
      trans_of (World.PutsOnly _) early.manifests late.manifests⟩

section Stands

variable {world later : World} {plan : Plan}

theorem World.PlansStand.of_evidence (stand : world.PlansStand)
    (same : later.evidence = world.evidence) : later.PlansStand := by
  have plans : later.plans = world.plans := congrArg Prod.fst same
  have manifests : later.manifests = world.manifests := congrArg Prod.snd same
  unfold PlansStand planRecord
  rw [plans, manifests]
  exact stand

/-- A call whose plan's identifier no other plan has keeps every record. -/
theorem World.PlansStand.of_follows (stand : world.PlansStand)
    (unclaimed : world.Unclaimed plan) (follows : world.Follows plan later) :
    later.PlansStand := by
  intro manifestId manifest found
  unfold planRecord
  rw [follows.plans]
  rcases follows.manifests _ _ found with old | ⟨written, rfl, -, rfl⟩
  · by_cases same : plan.planId = manifest.plan.planId
    · rw [← same, Dict.lookup_insert_self,
        unclaimed manifestId manifest old same.symm]
      rfl
    · rw [Dict.lookup_insert_ne _ _ same]
      exact stand manifestId manifest old
  · rw [Manifest.plan_reloaded]
    change Option.map Plan.reloaded
      ((world.plans.insert written.plan.planId written.plan).lookup
        written.plan.planId) = _
    rw [Dict.lookup_insert_self]
    rfl

theorem World.Follows.of_evidence {middle : World}
    (same : middle.evidence = world.evidence)
    (follows : middle.Follows plan later) : world.Follows plan later := by
  have plans : middle.plans = world.plans := congrArg Prod.fst same
  have manifests : middle.manifests = world.manifests := congrArg Prod.snd same
  constructor
  · rw [follows.plans, plans]
  · exact trans_of (World.PutsOnly _) (World.PutsOnly.of_eq manifests)
      follows.manifests

theorem World.Planned.follows {middle : World}
    (planned : world.Planned plan middle) (stays : middle.Stays plan later) :
    world.Follows plan later := by
  have plans : middle.plans = world.plans.insert plan.planId plan :=
    congrArg Prod.fst planned
  have manifests : middle.manifests = world.manifests :=
    congrArg Prod.snd planned
  constructor
  · rw [stays.plans, plans]
  · exact trans_of (World.PutsOnly _) (World.PutsOnly.of_eq manifests)
      stays.manifests

end Stands

/-! ## Storing a plan -/

/-- The body stores the plan if it returns, and at most the plan if it
raises. -/
def StoresPlan {α : Type} (plan : Plan) (body : Program World PyException α) :
    Prop :=
  ∀ world, Ensures body world (fun _ later => world.Planned plan later)
    (fun _ later => later.evidence = world.evidence ∨ world.Planned plan later)

section Storing

variable (host : Host) (session : Session)

theorem frames_evidence {α : Type} {body : Program World PyException α}
    (plans : Frames World.plans body) (quiet : Within World.Quiet body) :
    Frames World.evidence body :=
  fun world => Prod.ext (plans world) (quiet world).manifests

theorem evidence_record (event : LedgerEvent) :
    Frames World.evidence (record host session event) :=
  frames_evidence (beside_plans.record host session event)
    (quiet_record host session event)

theorem storesPlan_bind {α β : Type} {plan : Plan}
    {first : Program World PyException α}
    {next : α → Program World PyException β}
    (head : Frames World.evidence first)
    (tail : ∀ value, StoresPlan plan (next value)) :
    StoresPlan plan (first >>= next) := by
  intro world
  rw [ensures_bind]
  apply (head.ensures world).mono
  · intro value middle same
    apply (tail value middle).mono
    · intro _ later planned
      exact planned.trans (congrArg
        (fun evidence : Dict String Plan × ManifestFiles =>
          (evidence.1.insert plan.planId plan, evidence.2)) same)
    · rintro _ later (unchanged | planned)
      · exact .inl (unchanged.trans same)
      · exact .inr (planned.trans (congrArg
          (fun evidence : Dict String Plan × ManifestFiles =>
            (evidence.1.insert plan.planId plan, evidence.2)) same))
  · exact fun _ _ same => .inl same

theorem storesPlan_storePlanWithAudit (plan : Plan) (workUnit : WorkUnit) :
    StoresPlan plan (storePlanWithAudit host session plan workUnit) := by
  intro world
  unfold storePlanWithAudit putPlan
  rw [ensures_bind, ensures_bind, ensures_lift]
  refine ⟨fun _ _ => ?_, fun _ _ => .inl rfl⟩
  rw [ensures_bind, ensures_lift]
  refine ⟨fun planId accepted => ?_, fun _ _ => .inl rfl⟩
  obtain rfl := (validateIdentifier_eq_ok accepted).1
  rw [ensures_modify]
  apply ((evidence_record host session _).ensures _).mono
  · exact fun _ _ same => same
  · exact fun _ _ same => .inr same

/-- The admission of an execution stores its plan. -/
theorem storesPlan_admitPrepared (execution : Execution)
    (prepared : Prepared) :
    StoresPlan prepared.plan (admitPrepared host execution prepared) := by
  refine storesPlan_bind ?_ fun _ => ?_
  · exact frames_evidence
      (beside_plans.requirePolicyApproval host execution prepared)
      (quiet_requirePolicyApproval host execution prepared)
  · refine storesPlan_bind (evidence_record host _ _) fun _ => ?_
    refine storesPlan_bind (evidence_record host _ _) fun _ => ?_
    exact storesPlan_storePlanWithAudit host _ _ _

/-- So does that of an AI request. -/
theorem storesPlan_admitAi (admission : Admission) :
    StoresPlan admission.plan (admitAi host session admission) := by
  refine storesPlan_bind ?_ fun _ => ?_
  · apply frames_ite
    · exact frames_ret _
    · apply frames_ite
      · exact frames_evidence (beside_plans.verifyApproval host _ _ _)
          (quiet_verifyApproval host _ _ _)
      · exact frames_raise _
  · refine storesPlan_bind (evidence_record host _ _) fun _ => ?_
    refine storesPlan_bind (evidence_record host _ _) fun _ => ?_
    exact storesPlan_storePlanWithAudit host _ _ _

end Storing

/-! ## Executions -/

section Executions

variable (host : Host) {execution : Execution} {prepared : Prepared}

theorem Execution.Makes.plan {manifest : Manifest}
    (makes : execution.Makes prepared manifest) :
    manifest.plan = prepared.plan := by
  cases makes with
  | observed mode manifestId createdAt => rfl
  | stored mode segments verification manifestId createdAt => rfl

/-- What an execution leaves of the two stores. -/
theorem follows_executeExactObject
    (ready : execution.prepare host = .ok prepared) (world : World) :
    Ensures (executeExactObject host execution) world
      (fun _ later => world.Follows prepared.plan later)
      (fun _ later => later.evidence = world.evidence ∨
        world.Follows prepared.plan later) := by
  have puts : Within (World.PutsOnly fun manifest =>
      manifest.plan = prepared.plan) (executeExactObject host execution) := by
    intro world manifestId manifest found
    rcases putsOnly_executeExactObject execution prepared host ready world
      manifestId manifest found with old | ⟨written, makes, named, same⟩
    · exact .inl old
    · exact .inr ⟨written, makes.plan, named, same⟩
  have plans : Ensures (executeExactObject host execution) world
      (fun _ later => later.plans =
        world.plans.insert prepared.plan.planId prepared.plan)
      (fun _ later => later.evidence = world.evidence ∨
        later.plans = world.plans.insert prepared.plan.planId prepared.plan) := by
    unfold executeExactObject
    rw [ready, lift_ok_bind, ensures_bind]
    apply (storesPlan_admitPrepared host execution prepared world).mono
    · intro _ admitted planned
      have stored : admitted.plans =
          world.plans.insert prepared.plan.planId prepared.plan :=
        congrArg Prod.fst planned
      have rest : Frames World.plans
          (if prepared.mode = .observe then
            recordObservation host execution prepared
          else storeObject host execution prepared) :=
        frames_ite (beside_plans.recordObservation host execution prepared)
          (beside_plans.storeObject host execution prepared)
      apply (rest.ensures admitted).mono
      · exact fun _ _ same => same.trans stored
      · exact fun _ _ same => .inr (same.trans stored)
    · rintro _ later (same | planned)
      · exact .inl same
      · exact .inr (congrArg Prod.fst planned)
  apply (plans.and (puts.ensures world)).mono
  · exact fun _ _ both => ⟨both.1, both.2⟩
  · rintro _ later ⟨same | stored, written⟩
    · exact .inl same
    · exact .inr ⟨stored, written⟩

end Executions

/-! ## AI requests -/

section Requests

variable (host : Host)

/-- The intake of a request decides on its plan and stores it. -/
theorem planned_intake (request : AiRequest) (world : World) :
    Ensures (intake host request) world
      (fun admission later => (decideAi host request world).1 = .ok admission ∧
        world.Planned admission.plan later)
      (fun _ later => later.evidence = world.evidence ∨ ∃ admission,
        (decideAi host request world).1 = .ok admission ∧
          world.Planned admission.plan later) := by
  have quiet : Frames World.evidence (decideAi host request) := fun world =>
    congrArg Prod.snd (records_decideAi request world)
  unfold intake
  rw [ensures_bind]
  apply ((quiet.ensures world).and
    (ensures_self (decideAi host request) world)).mono
  · rintro admission decided ⟨same, run⟩
    have stored : ∀ {later : World}, decided.Planned admission.plan later →
        world.Planned admission.plan later := fun planned =>
      planned.trans (congrArg
        (fun evidence : Dict String Plan × ManifestFiles =>
          (evidence.1.insert admission.plan.planId admission.plan, evidence.2))
        same)
    rw [ensures_bind]
    apply (storesPlan_admitAi host request.session admission decided).mono
    · exact fun _ later planned => ⟨congrArg Prod.fst run, stored planned⟩
    · rintro _ later (unchanged | planned)
      · exact .inl (unchanged.trans same)
      · exact .inr ⟨admission, congrArg Prod.fst run, stored planned⟩
  · exact fun _ _ both => .inl both.1

theorem stays_of_quiet {α : Type} {plan : Plan}
    {body : Program World PyException α} (plans : Frames World.plans body)
    (quiet : Within World.Quiet body) :
    Within (World.Stays · plan ·) body :=
  fun world => ⟨plans world, .of_eq (quiet world).manifests⟩

theorem stays_supply {α : Type} {plan : Plan}
    (body : Program Supply PyException α) :
    Within (World.Stays · plan ·) (focus World.supplyLens body) :=
  fun _ => ⟨rfl, .of_eq rfl⟩

theorem stays_putManifest (session : Session) (admission : Admission)
    {plan : Plan} {manifest : Manifest} (made : manifest.plan = plan) :
    Within (World.Stays · plan ·)
      (putManifest host session admission manifest) := by
  refine within_bind (fun world => ⟨rfl, ?_⟩) fun _ => ?_
  · exact putsOnly_put host session made world
  · exact stays_of_quiet (beside_plans.record host session _)
      (quiet_record host session _)

theorem stays_writeChatManifest (chat : Chat) (served : Served) :
    Within (World.Stays · chat.admission.plan ·)
      (writeChatManifest host chat served) := by
  refine within_bind (stays_supply _) fun cacheable => ?_
  refine within_bind (within_lift _) fun _ => ?_
  refine within_bind (stays_supply _) fun manifestId => ?_
  refine within_bind (stays_supply _) fun createdAt => ?_
  exact within_bind (stays_putManifest host _ _ rfl) fun _ => within_ret _

theorem stays_writeEmbeddingManifest (embedding : Embedding) (served : Served)
    (vectors : List (List Value)) :
    Within (World.Stays · embedding.admission.plan ·)
      (writeEmbeddingManifest host embedding served vectors) := by
  refine within_bind (stays_supply _) fun cacheable => ?_
  refine within_bind (within_lift _) fun _ => ?_
  refine within_bind (stays_supply _) fun manifestId => ?_
  refine within_bind (stays_supply _) fun createdAt => ?_
  exact within_bind (stays_putManifest host _ _ rfl) fun _ => within_ret _

end Requests

/-- Nothing is stored in the gateway's directory under another plan. -/
def Gateway.Stays (gateway : Gateway) (plan : Plan) (later : Gateway) : Prop :=
  gateway.world.Stays plan later.world

instance (plan : Plan) : IsPreorder Gateway (Gateway.Stays · plan ·) where
  refl gateway := refl_of (World.Stays · plan ·) gateway.world
  trans _ _ _ early late := trans_of (World.Stays · plan ·) early late

section Gateways

variable (host : Host) {plan : Plan}

theorem stays_of_evidence {α : Type} {body : Program Gateway PyException α}
    (same : Frames Gateway.evidence body) :
    Within (Gateway.Stays · plan ·) body :=
  fun gateway => ⟨congrArg Prod.fst (same gateway),
    .of_eq (congrArg Prod.snd (same gateway))⟩

theorem stays_finish (chat : Chat) (served : Served) :
    Within (Gateway.Stays · chat.admission.plan ·) (finish host chat served) := by
  refine within_bind (within_lift _) fun _ => ?_
  refine within_bind ?_ fun manifest => within_ret _
  exact within_focus (stays_writeChatManifest host chat served)
    fun _ _ stays => stays

theorem stays_finishEmbedding (embedding : Embedding) (served : Served) :
    Within (Gateway.Stays · embedding.admission.plan ·)
      (finishEmbedding host embedding served) := by
  refine within_bind (within_lift _) fun embeddings => ?_
  refine within_bind (within_lift _) fun _ => ?_
  refine within_bind ?_ fun manifest => within_ret _
  exact within_focus (stays_writeEmbeddingManifest host embedding served _)
    fun _ _ stays => stays

/-- A view of neither a cache nor the ledger stays the same while vectors are
looked for. -/
theorem Unlogged.serveEmbedding {γ : Type} {project : Gateway → γ}
    (unlogged : Unlogged project) (embedding : Embedding) :
    Frames project (serveEmbedding host embedding) := by
  have records : ∀ event,
      Frames project (recordEmbedding host embedding event) :=
    fun event => unlogged.record host _ event
  have lookup : Frames project (embeddingLookup host embedding) := by
    apply frames_ite
    · refine frames_bind (frames_focus unlogged.exact) fun cached => ?_
      split
      · exact frames_ret _
      · exact frames_ret _
    · exact frames_ret _
  have stores : ∀ response,
      Frames project (storeEmbedding host embedding response) := by
    intro response
    unfold storeEmbedding
    split
    · apply frames_ite
      · exact frames_focus unlogged.exact
      · exact frames_ret _
    · exact frames_ret _
  have computes : Frames project (computeVectors host embedding) := by
    apply frames_ite
    · exact frames_ret _
    · exact frames_bind (records _) fun _ => frames_ret _
  refine frames_bind lookup fun cached => ?_
  split
  · exact frames_bind (records _) fun _ => frames_ret _
  · refine frames_bind (frames_lift _) fun route => ?_
    refine frames_bind computes fun computed => ?_
    obtain ⟨response, vectors, fallback⟩ := computed
    simp only
    apply frames_ite
    · refine frames_bind (frames_lift _) fun _ => ?_
      refine frames_bind (stores _) fun _ => ?_
      refine frames_bind (records _) fun _ => ?_
      refine frames_bind (records _) fun _ => ?_
      exact frames_bind (unlogged.recordFeedback host _ _ _)
        fun _ => frames_ret _
    · exact frames_bind (records _) fun _ => frames_raise _

/-- The directory stays the same while vectors are looked for. -/
theorem evidence_serveEmbedding (embedding : Embedding) :
    Frames Gateway.evidence (serveEmbedding host embedding) :=
  unlogged_evidence.serveEmbedding host embedding

end Gateways

end Urp
