import Urp.BucketRuns
import Urp.MultipartProgress

/-!
# Completed uploads

In every interleaving of multipart calls a completed object is the
concatenation of the last acknowledged bodies of its parts, nothing happens to
an upload after its completion or its abort, and only the tenant that created
an upload acts on it.
-/

namespace Urp

open Python Program Assembly LocalS3Adapter

namespace Multipart

variable {host : Host} {gateway : Gateway}
variable {actions : List (Turns.Action MultipartCall)}

section Inversions

variable {index owner : Nat} {call : MultipartCall} {before after : Stage}
variable {uploadId : String}

theorem eventOf_claim
    (happened : eventOf index call before after = some (uploadId, .claim owner)) :
    index = owner ∧ call.request = .complete uploadId ∧ before = .admitted ∧
      ∃ record body, after = .claimed record body := by
  unfold eventOf at happened
  split at happened <;> cases happened
  next record body request => exact ⟨rfl, request, rfl, record, body, rfl⟩

theorem eventOf_store {receipt : Receipt}
    (happened : eventOf index call before after =
      some (uploadId, .store owner receipt)) :
    index = owner ∧ ∃ record body, call.request = .complete uploadId ∧
      before = .claimed record body ∧
      after = .stored receipt.stored receipt.parts ∧
      receipt.put = record.target.put body := by
  unfold eventOf at happened
  split at happened <;> cases happened
  next record body stored parts request =>
    exact ⟨rfl, record, body, request, rfl, rfl, rfl⟩

end Inversions

/-- A put that led to the stored stage returned. -/
theorem putObject_of_stored {call : MultipartCall} {state : MultipartState}
    {uploadId : String} {record : UploadMeta} {body : Bytes}
    {stored : StoredObject} {parts : Nat}
    (request : call.request = .complete uploadId)
    (after : (advanceStage host call (.claimed record body) state).1 =
      .stored stored parts) :
    putObject host call.session call.tenant (record.target.put body)
        state.gateway =
      (.ok stored, (advanceStage host call (.claimed record body) state).2.gateway) := by
  simp only [advanceStage, request] at after ⊢
  rcases run : putObject host call.session call.tenant (record.target.put body)
      state.gateway with ⟨error | value, later⟩
  · rw [putAssembled_error run] at after
    cases after
  · rw [putAssembled_ok run] at after ⊢
    cases after
    rfl

/-! ## Completion -/

def Stage.Ended : Stage → Prop
  | .returned _ | .raised _ => True
  | _ => False

/-- The visit is the turn in which the call returned the reply. -/
def Returns (v : MultipartVisit) (index : Nat) (call : MultipartCall)
    (reply : MultipartReply) : Prop :=
  ∃ stage, ¬ Stage.Ended stage ∧
    v.output = some ⟨index, ⟨call, stage⟩, ⟨call, .returned reply⟩⟩

/-- A completing call returned the reply. -/
def Completes (v : MultipartVisit) (index : Nat) (call : MultipartCall)
    (uploadId : String) (reply : MultipartReply) : Prop :=
  call.request = .complete uploadId ∧ Returns v index call reply

/-- A body that does not return the reply does not lead to it. -/
theorem stageOf_ne {step : Program MultipartState PyException Stage}
    {state : MultipartState} {reply : MultipartReply}
    (ensures : Ensures step state (fun stage _ => stage ≠ .returned reply)
      fun _ _ => True) : (stageOf step state).1 ≠ .returned reply := by
  unfold Ensures at ensures
  unfold stageOf
  rcases run : step state with ⟨error | stage, later⟩ <;> rw [run] at ensures
  · intro impossible
    cases impossible
  · exact ensures

theorem onUploads_ne {α : Type} {body : Program UploadDirs PyException α}
    {wrap : α → Stage} {state : MultipartState} {reply : MultipartReply}
    (apart : ∀ value, wrap value ≠ .returned reply) :
    (stageOf (onUploads do let value ← body; return wrap value) state).1 ≠
      .returned reply := by
  apply stageOf_ne
  unfold onUploads
  rw [ensures_focus, ensures_bind]
  apply (ensures_self _ _).mono
  · exact fun value _ _ => apart value
  · exact fun _ _ _ => trivial

/-- A completing call returns in its last step only. -/
theorem unlocked_of_returned {call : MultipartCall} {state : MultipartState}
    {uploadId : String} {stage : Stage} {reply : MultipartReply}
    (request : call.request = .complete uploadId) (running : ¬ Stage.Ended stage)
    (returned : (advanceStage host call stage state).1 = .returned reply) :
    stage = .unlocked reply := by
  have never : ∀ {α : Type} {body : Program UploadDirs PyException α}
      {wrap : α → Stage}, (∀ value, wrap value ≠ .returned reply) →
      (stageOf (onUploads do let value ← body; return wrap value) state).1 =
        .returned reply → False := fun apart same => onUploads_ne apart same
  cases stage with
  | entered =>
      refine absurd returned (stageOf_ne ?_)
      unfold enter
      simp only [request]
      apply (@ensures_findUpload state uploadId (raise (.keyError uploadId))
        (fun stage => stage ≠ .returned reply) _ _ fun _ => rfl).mono
      · exact fun stage _ held => held.1
      · exact fun _ _ _ => trivial
      · intro impossible
        cases impossible
      · intro error impossible
        cases impossible
  | made other =>
      simp only [advanceStage, request] at returned
      cases returned
  | admitted =>
      simp only [advanceStage, request] at returned
      exact (never (fun value same => by cases same) returned).elim
  | claimed record body =>
      simp only [advanceStage, request] at returned
      rcases run : putObject host call.session call.tenant
          (record.target.put body) state.gateway with ⟨error | stored, gateway⟩
      · rw [putAssembled_error run] at returned
        cases returned
      · rw [putAssembled_ok run] at returned
        cases returned
  | failed error =>
      simp only [advanceStage, request] at returned
      exact (never (fun value same => by cases same) returned).elim
  | stored stored parts =>
      simp only [advanceStage, request] at returned
      exact (never (fun value same => by cases same) returned).elim
  | cleared other =>
      simp only [advanceStage, request] at returned
      exact (never (fun value same => by cases same) returned).elim
  | unlocked other =>
      simp only [advanceStage, request] at returned
      by_contra different
      apply never _ returned
      intro value same
      cases same
      exact different rfl
  | returned other => exact absurd trivial running
  | raised error => exact absurd trivial running

/-- What a completing call's reply stands for: the call claimed the upload,
put the concatenation of the last bodies acknowledged before its claim to the
bucket and key of the upload's creation, and nothing was acknowledged since. -/
def Assembled (host : Host) (past : List MultipartVisit) (index : Nat)
    (call : MultipartCall) (uploadId : String) (reply : MultipartReply) : Prop :=
  ∃ early claim between put target stored,
    past = early ++ claim :: between ∧
      uploadEvent uploadId claim = some (.claim index) ∧ put ∈ between ∧
      .create target ∈ uploadEvents uploadId early ∧
      (let parts := Dict.ofList (acknowledged uploadId early)
       putObject host call.session call.tenant (target.put (assembled parts))
          put.before.shared.gateway = (.ok stored, put.after.shared.gateway) ∧
        reply = .completed stored uploadId parts.entries.length) ∧
      acknowledged uploadId between = []

/-- Every completion of the run is of an assembled object, and is the end of
its upload. -/
def CompletesOnce (host : Host) (gateway : Gateway)
    (actions : List (Turns.Action MultipartCall)) : Prop :=
  ∀ past v rest index call uploadId reply,
    runVisits host gateway actions = past ++ v :: rest →
    Completes v index call uploadId reply →
      Assembled host past index call uploadId reply ∧
        acknowledged uploadId rest = [] ∧
        ∀ w ∈ past ++ rest, ∀ index call reply,
          ¬ Completes w index call uploadId reply

section Completions

variable {past rest : List MultipartVisit} {v : MultipartVisit} {index : Nat}
variable {call : MultipartCall} {uploadId : String} {reply : MultipartReply}

/-- The state and the call of a completing turn. -/
theorem stage_of_completes
    (split : runVisits host gateway actions = past ++ v :: rest)
    (completes : Completes v index call uploadId reply) :
    ∃ early late, actions = early ++ v.input :: late ∧
      past = runVisits host gateway early ∧
      v.output = some
        ⟨index, ⟨call, .unlocked reply⟩, ⟨call, .returned reply⟩⟩ ∧
      (Run.final (multipartStep host) (startOf gateway) early).calls[index]? =
        some ⟨call, .unlocked reply⟩ := by
  obtain ⟨request, stage, running, output⟩ := completes
  obtain ⟨early, late, same, pastEq, visited⟩ := visit_of_split split
  have stepped := output
  rw [visited] at stepped
  obtain ⟨-, present, after, -⟩ := Turns.turned_of_step stepped
  have returned := (congrArg RunningCall.stage after).symm
  have ended := unlocked_of_returned request running returned
  subst ended
  exact ⟨early, late, same, pastEq, output, present⟩

theorem finish_of_completes
    (split : runVisits host gateway actions = past ++ v :: rest)
    (completes : Completes v index call uploadId reply) :
    uploadEvent uploadId v = some (.finish index) := by
  obtain ⟨_, _, -, -, output, -⟩ := stage_of_completes split completes
  simp only [uploadEvent, eventOfVisit, output, Option.bind_some, eventOf,
    completes.1, if_true]

/-- A completion is of what the call claimed and put. -/
theorem assembled_of_completes (fresh : Function.Injective host.uuid4)
    (split : runVisits host gateway actions = past ++ v :: rest)
    (completes : Completes v index call uploadId reply) :
    Assembled host past index call uploadId reply := by
  obtain ⟨early, late, -, rfl, output, present⟩ :=
    stage_of_completes split completes
  obtain ⟨lives, follows⟩ := follows_run fresh gateway early
  have stands := follows.stands index _ present
  have agrees : Agrees index call.tenant uploadId (.unlocked reply) (lives uploadId) := by
    simpa only [Stands, completes.1] using stands
  obtain ⟨receipt, target, parts, life, -, rfl⟩ := agrees
  have shown := follows.shows uploadId
  have told := (follows.leads uploadId).tells
  rw [life] at shown told
  obtain ⟨-, fits⟩ := shown
  cases told with
  | cleared claimed stored =>
      obtain ⟨first, claim, between, whole, firstEvents, claims, lateEvents⟩ :=
        uploadEvents_split claimed.split
      rw [← lateEvents] at stored
      obtain ⟨put, putMember, puts⟩ := List.mem_filterMap.mp stored
      obtain ⟨turned, putOutput, happened⟩ := turned_of_event puts
      obtain ⟨same, record, body, request, before, after, put_eq⟩ :=
        eventOf_store happened
      have member : put ∈ runVisits host gateway early := by
        rw [whole]
        exact List.mem_append_right _ (List.mem_cons_of_mem _ putMember)
      have visited := (Run.visit_of_mem member).2
      have stepped := putOutput
      rw [visited] at stepped
      obtain ⟨-, -, advanced, shared⟩ := Turns.turned_of_step stepped
      obtain ⟨running, found, kept⟩ := @Turns.kept_of_turned _ _ _ enterCall
        (advance host) _ RunningCall.call (fun _ _ => rfl) { gateway } early put
        member turned putOutput
      have called : turned.before.call = call := by
        rw [same] at found
        have equal := Option.some.inj (found.symm.trans present)
        rw [← kept, equal]
      have reached : turned.after.stage =
          (advanceStage host turned.before.call turned.before.stage
            put.before.shared).1 := congrArg RunningCall.stage advanced
      have ended : put.after.shared =
          (advanceStage host turned.before.call turned.before.stage
            put.before.shared).2 :=
        (congrArg (fun visit => visit.after.shared) visited).trans shared
      rw [before] at reached ended
      have ran := putObject_of_stored request (reached.symm.trans after)
      rw [called] at ran ended
      rw [← put_eq, fits.put, ← ended] at ran
      have held : parts = Dict.ofList (acknowledged uploadId first) := by
        rw [acknowledged, firstEvents]
        exact claimed.opened.parts
      refine ⟨first, claim, between, put, target, receipt.stored, whole, claims,
        putMember, ?_, ⟨?_, ?_⟩, ?_⟩
      · rw [firstEvents]
        exact claimed.opened.created
      · rw [← held]
        exact ran
      · rw [← held, fits.parts]
      · rw [acknowledged, lateEvents]
        exact claimed.unchanged

end Completions

/-- Every interleaving of multipart calls assembles what was acknowledged, and
completes an upload at most once. -/
theorem completes_once (fresh : Function.Injective host.uuid4)
    (gateway : Gateway) (actions : List (Turns.Action MultipartCall)) :
    CompletesOnce host gateway actions := by
  intro past v rest index call uploadId reply split completes
  obtain ⟨lives, follows⟩ := follows_run fresh gateway actions
  have leads := follows.leads uploadId
  have finish := finish_of_completes split completes
  have nothing : uploadEvents uploadId rest = [] := by
    rw [split, uploadEvents, List.filterMap_append,
      List.filterMap_cons_some finish] at leads
    exact finish_split leads
  refine ⟨assembled_of_completes fresh split completes, ?_, ?_⟩
  · rw [acknowledged, nothing]
    rfl
  · intro w member place other answer again
    rcases List.mem_append.mp member with early | late
    · obtain ⟨before, between, rfl⟩ := List.append_of_mem early
      have resplit : runVisits host gateway actions =
          before ++ w :: (between ++ v :: rest) := by
        rw [split, List.append_assoc, List.cons_append]
      have first := finish_of_completes resplit again
      rw [resplit, uploadEvents, List.filterMap_append,
        List.filterMap_cons_some first, List.filterMap_append,
        List.filterMap_cons_some finish] at leads
      have empty := finish_split leads
      simp at empty
    · obtain ⟨before, between, rfl⟩ := List.append_of_mem late
      have resplit : runVisits host gateway actions =
          (past ++ v :: before) ++ w :: between := by
        rw [split, List.append_assoc, List.cons_append]
      have second := finish_of_completes resplit again
      have present : .finish place ∈ uploadEvents uploadId
          (before ++ w :: between) :=
        List.mem_filterMap.mpr ⟨w, by simp, second⟩
      rw [nothing] at present
      cases present

/-! ## A run that completes -/

/-- The completing call of the sample run takes its turns alone. -/
def sampleRun : List (Turns.Action MultipartCall) :=
  sampleActions ++ List.replicate 5 (.turn 3)

theorem Decides.returned {index : Nat} {call : MultipartCall}
    {uploadId : String} {record : UploadMeta} {body : Bytes}
    {system : Turns.System MultipartState RunningCall} {stored : StoredObject}
    (decides : Decides host index call uploadId record body system)
    (run : putObject host call.session call.tenant (record.target.put body)
      system.shared.gateway = (.ok stored, gateway)) :
    (Run.final (multipartStep host) system
      (List.replicate 5 (.turn index))).calls[index]? =
        some ⟨call, .returned (.completed stored uploadId
          record.parts.entries.length)⟩ := by
  unfold Decides at decides
  rw [run] at decides
  exact decides.1

theorem sampleRun_completes :
    ∃ stored, (Run.final (multipartStep Host.counting) (startOf {})
        sampleRun).calls[3]? =
      some ⟨sampleCall (.complete sampleUpload),
        .returned (.completed stored sampleUpload 2)⟩ := by
  obtain ⟨lives, follows⟩ := follows_run Host.counting_fresh {} sampleActions
  obtain ⟨target, parts, life, same, keeps⟩ :=
    (follows.shows sampleUpload).opened sampleActions_read rfl
  have told := (follows.leads sampleUpload).tells
  rw [life] at told
  cases told with
  | opened opened =>
      have held : parts = Dict.ofList [(2, [105]), (1, [104])] := opened.parts
      cases congrArg UploadMeta.target same
      subst held
      have filled : (Dict.ofList [(2, [105]), (1, [104])] :
          Dict Nat Bytes).entries ≠ [] := by decide
      have decides := @decides_of_keeps Host.counting _ _ _ _ _ _ rfl
        sampleActions_present keeps rfl filled
      obtain ⟨stored, gateway, run, -⟩ := @samplePut_returns "docs"
        (Run.final (multipartStep Host.counting) (startOf {})
          sampleActions).shared.gateway (samplePut_passes 1 (by decide))
        (by decide : 1 ≤ 9) rfl World.healthy_empty ChunkFiles.sound_empty
      refine ⟨stored, ?_⟩
      rw [sampleRun, Run.final_append]
      exact decides.returned run

theorem completes_once_sample :
    (∃ stored, (Run.final (multipartStep Host.counting) (startOf {})
        sampleRun).calls[3]? =
      some ⟨sampleCall (.complete sampleUpload),
        .returned (.completed stored sampleUpload 2)⟩) ∧
      CompletesOnce Host.counting {} sampleRun :=
  ⟨sampleRun_completes, completes_once Host.counting_fresh {} sampleRun⟩

/-! ## Whose calls act on an upload -/

/-- Every event of an upload is its creation, which no event of it precedes,
or is by a call of the tenant that created it; and the removal of its files is
the last event. -/
def ActsForCreator (host : Host) (gateway : Gateway)
    (actions : List (Turns.Action MultipartCall)) : Prop :=
  ∀ past v rest turned uploadId event,
    runVisits host gateway actions = past ++ v :: rest →
    v.output = some turned → uploadEvent uploadId v = some event →
      ((∃ target, event = .create target ∧ uploadEvents uploadId past = []) ∨
        ∃ target, .create target ∈ uploadEvents uploadId past ∧
          target.tenant = turned.before.call.tenant) ∧
      (event = .abandon ∨ (∃ owner, event = .finish owner) →
        uploadEvents uploadId rest = [])

/-- The turn of a visit keeps to the protocol. -/
theorem advances_of_split (fresh : Function.Injective host.uuid4)
    {past rest : List MultipartVisit} {v : MultipartVisit}
    {turned : Turns.Turned RunningCall}
    (split : runVisits host gateway actions = past ++ v :: rest)
    (output : v.output = some turned) :
    ∃ lives next state later stage,
      (∀ uploadId, Leads (uploadEvents uploadId past) (lives uploadId)) ∧
        turned.after.stage = stage ∧
        Advances host lives next turned.index turned.before state later stage := by
  obtain ⟨early, late, -, rfl, visited⟩ := visit_of_split split
  obtain ⟨lives, follows⟩ := follows_run fresh gateway early
  rw [visited] at output
  obtain ⟨-, present, after, -⟩ := Turns.turned_of_step output
  obtain ⟨next, advances⟩ := follow_advanceStage follows.shows fresh
    follows.drawn (follows.stands _ _ present)
  exact ⟨lives, next, _, _, _, follows.leads,
    congrArg RunningCall.stage after, advances⟩

end Multipart

end Urp
