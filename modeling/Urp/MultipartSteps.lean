import Urp.MultipartLives

/-!
# The steps of the multipart calls

Every turn of every call keeps to the protocol of its upload.
-/

namespace Urp

open Python Program Assembly LocalS3Adapter

/-- A stage at which a call owns nothing. -/
inductive Stage.Free : Stage → Prop where
  | entered : Stage.Free .entered
  | admitted : Stage.Free .admitted
  | returned (reply : MultipartReply) : Stage.Free (.returned reply)
  | raised (error : PyException) : Stage.Free (.raised error)

theorem Stage.Free.unmade {stage : Stage} (free : stage.Free)
    (uploadId : String) : stage ≠ .made uploadId := by
  intro made
  cases free <;> cases made

namespace Multipart

variable {host : Host} {lives : String → UploadLife} {index : Nat}
variable {call : MultipartCall} {state : MultipartState}
variable {uploadId : String}

/-- Some lives follow the turn. -/
def Follow (host : Host) (lives : String → UploadLife) (index : Nat)
    (running : RunningCall) (state : MultipartState) (stage : Stage)
    (later : MultipartState) : Prop :=
  ∃ next, Advances host lives next index running state later stage

theorem follow_ofStep {running : RunningCall}
    {step : Program MultipartState PyException Stage}
    (ensures : Ensures step state (Follow host lives index running state)
      fun error => Follow host lives index running state (.raised error)) :
    Follow host lives index running state (stageOf step state).1
      (stageOf step state).2 := by
  unfold Ensures at ensures
  unfold stageOf
  rcases run : step state with ⟨error | stage, later⟩ <;> rw [run] at ensures <;>
    exact ensures

section Turns

variable {running : RunningCall} {stage : Stage} {later : MultipartState}

/-- A turn without an event. -/
theorem follow_still
    (silent : eventOf index running.call running.stage stage = none)
    (shows : ∀ uploadId, Shows (later.uploads.at uploadId) (lives uploadId))
    (stands : Stands lives index ⟨running.call, stage⟩)
    (supply : state.gateway.supply.nextId ≤ later.gateway.supply.nextId)
    (made : ∀ uploadId, stage = .made uploadId →
      running.stage = .made uploadId ∨
        Drawn host later uploadId ∧ ¬ Drawn host state uploadId) :
    Follow host lives index running state stage later := by
  refine ⟨lives, ?_, ?_, shows, stands, supply, made⟩
  · rw [silent]
    exact .still
  · rw [silent]
    exact fun _ _ _ impossible => by cases impossible

/-- The target of a known life. -/
theorem target_of {life : UploadLife} {target : UploadTarget}
    (same : lives uploadId = life) {tenant : String}
    (owned : target.tenant = tenant)
    (known : life.target = some target) :
    ∀ other, (lives uploadId).target = some other → other.tenant = tenant := by
  intro other of
  rw [same, known] at of
  cases of
  exact owned

/-- A turn with an event of one upload. -/
theorem follow_event {dir : UploadDir} {event : UploadEvent} {life : UploadLife}
    (shows : ∀ uploadId, Shows (state.uploads.at uploadId) (lives uploadId))
    (happened : eventOf index running.call running.stage stage =
      some (uploadId, event))
    (step : Step (lives uploadId) event life)
    (owned : ∀ target, (lives uploadId).target = some target →
      target.tenant = running.call.tenant)
    (rewrites : state.uploads.Rewrites later.uploads uploadId dir)
    (here : Shows dir life)
    (stands : Stands (Function.update lives uploadId life) index
      ⟨running.call, stage⟩)
    (supply : state.gateway.supply.nextId ≤ later.gateway.supply.nextId)
    (unmade : ∀ uploadId, stage ≠ .made uploadId) :
    Follow host lives index running state stage later := by
  refine ⟨Function.update lives uploadId life, ?_, ?_, ?_, stands, supply, ?_⟩
  · rw [happened]
    exact .event uploadId event life step
  · rw [happened]
    rintro other occurred target same
    cases same
    exact owned target
  · apply shows_rewrites shows rewrites
    · intro other different
      exact Function.update_of_ne different _ _
    · rw [Function.update_self]
      exact here
  · exact fun other made => absurd made (unmade other)

end Turns

/-! ## The first step -/

theorem eventOf_entered (stage : Stage) :
    eventOf index call .entered stage = none := by
  unfold eventOf
  cases call.request <;> rfl

theorem multipartDir_eq_ok {root : String}
    (valid : multipartDir uploadId = .ok root) : root = uploadId :=
  (validateIdentifier_eq_ok valid).1

theorem ensures_findUpload {missing : Program UploadDirs PyException Stage}
    {holds : Stage → Prop} (admitted : holds .admitted)
    (raised : ∀ error, holds (.raised error))
    (absent : ∀ uploads, Ensures missing uploads
      (fun stage later => holds stage ∧ later = uploads)
      (fun _ later => later = uploads)) :
    Ensures (findUpload uploadId missing) state
      (fun stage later => holds stage ∧ later = state)
      (fun error later => holds (.raised error) ∧ later = state) := by
  unfold findUpload onUploads
  rw [ensures_focus, ensures_bind, ensures_lift]
  refine ⟨fun root _ => ?_, fun error _ => ⟨raised error, rfl⟩⟩
  rw [ensures_bind, ensures_get, ensures_ite]
  refine ⟨fun _ => ⟨admitted, rfl⟩, fun _ => ?_⟩
  apply (absent _).mono
  · rintro stage _ ⟨held, rfl⟩
    exact ⟨held, rfl⟩
  · rintro error _ rfl
    exact ⟨raised error, rfl⟩

theorem stands_of_free {stage : Stage} (free : stage.Free) :
    Stands lives index ⟨call, stage⟩ := by
  apply stands_free
  · intro uploadId life
    cases free <;> trivial
  · intro uploadId made
    cases free <;> cases made

/-- The put of an assembled object draws from the supply. -/
theorem supply_putObject (host : Host) (call : MultipartCall) (put : ObjectPut)
    (gateway : Gateway) :
    gateway.supply.nextId ≤
      (putObject host call.session call.tenant put gateway).2.supply.nextId := by
  rcases putObject_writes host call.session call.tenant put gateway with
    ⟨-, drawn⟩ | ⟨manifest, writes⟩
  · exact drawn.1
  · obtain ⟨k, low, high, -⟩ := writes.identifier
    exact Nat.le_of_lt (Nat.lt_of_le_of_lt low high)

theorem putAssembled_ok {record : UploadMeta} {body : Bytes}
    {stored : StoredObject} {gateway : Gateway}
    (run : putObject host call.session call.tenant (record.target.put body)
      state.gateway = (.ok stored, gateway)) :
    putAssembled host call record body state =
      (.stored stored record.parts.entries.length, { state with gateway }) := by
  simp only [putAssembled, run]

theorem putAssembled_error {record : UploadMeta} {body : Bytes}
    {error : PyException} {gateway : Gateway}
    (run : putObject host call.session call.tenant (record.target.put body)
      state.gateway = (.error error, gateway)) :
    putAssembled host call record body state =
      (.failed error, { state with gateway }) := by
  simp only [putAssembled, run]

theorem rewrites_self (uploads : UploadDirs) (uploadId : String) :
    uploads.Rewrites uploads uploadId (uploads.at uploadId) := by
  intro other
  split
  · next same => rw [same]
  · rfl

section Steps

variable (shows : ∀ uploadId, Shows (state.uploads.at uploadId) (lives uploadId))

include shows

/-- The tests before the first section. -/
theorem follow_tests {stage : Stage} (free : stage.Free) :
    Follow host lives index ⟨call, .entered⟩ state stage state :=
  follow_still (eventOf_entered stage) shows (stands_of_free free) le_rfl
    fun uploadId made => absurd made (free.unmade uploadId)

theorem follow_findUpload {missing : Program UploadDirs PyException Stage}
    (absent : ∀ uploads, Ensures missing uploads
      (fun stage later => stage.Free ∧ later = uploads)
      (fun _ later => later = uploads)) :
    Ensures (findUpload uploadId missing) state
      (Follow host lives index ⟨call, .entered⟩ state)
      fun error => Follow host lives index ⟨call, .entered⟩ state (.raised error) := by
  apply (ensures_findUpload .admitted .raised absent).mono
  · rintro stage _ ⟨free, rfl⟩
    exact follow_tests shows free
  · rintro error _ ⟨free, rfl⟩
    exact follow_tests shows free

theorem follow_createUpload (fresh : Function.Injective host.uuid4)
    (drawn : ∀ uploadId, lives uploadId ≠ .absent → Drawn host state uploadId)
    (bucket key : String) :
    Ensures (createUpload host bucket key) state
      (Follow host lives index ⟨call, .entered⟩ state)
      fun error => Follow host lives index ⟨call, .entered⟩ state (.raised error) := by
  have new : ¬ Drawn host state
      (host.idText "mpu" state.gateway.supply.nextId) := by
    rintro ⟨k, before, same⟩
    have equal := idText_injective fresh same
    omega
  unfold createUpload
  rw [ensures_ite]
  refine ⟨fun _ => follow_tests shows (.raised _), fun _ => ?_⟩
  rw [ensures_bind, ensures_focus]
  apply (host.ensures_newId _ "mpu").mono
  · rintro identifier supply ⟨rfl, rfl⟩
    rw [ensures_bind, ensures_lift]
    constructor
    · intro root valid
      rw [multipartDir_eq_ok valid]
      unfold onUploads
      rw [ensures_focus, ensures_bind, ensures_modify]
      apply follow_still (eventOf_entered _)
      · intro other
        change Shows (UploadDirs.at (Dict.insert state.uploads _
          (state.uploads.at _)) other) _
        rw [UploadDirs.at_insert]
        split
        · next same =>
            rw [same]
            exact shows other
        · exact shows other
      · unfold Stands
        split
        · trivial
        · next uploadId request made =>
            cases made
            by_contra living
            exact new (drawn _ living)
        · trivial
      · exact Nat.le_succ _
      · rintro uploadId made
        cases made
        exact .inr ⟨⟨_, Nat.lt_succ_self _, rfl⟩, new⟩
    · intro error _
      apply follow_still (eventOf_entered _)
      · exact shows
      · exact stands_of_free (.raised error)
      · exact Nat.le_succ _
      · exact fun uploadId made =>
          absurd made ((Stage.Free.raised error).unmade uploadId)
  · exact fun _ _ impossible => impossible.elim

theorem follow_entered (fresh : Function.Injective host.uuid4)
    (drawn : ∀ uploadId, lives uploadId ≠ .absent → Drawn host state uploadId) :
    let next := advanceStage host call .entered state
    Follow host lives index ⟨call, .entered⟩ state next.1 next.2 := by
  apply follow_ofStep
  unfold enter
  cases call.request with
  | create bucket key nameSpace metadata tags =>
      exact follow_createUpload shows fresh drawn bucket key
  | uploadPart uploadId partNumber body =>
      rw [ensures_ite]
      refine ⟨fun _ => follow_tests shows (.raised _), fun _ => ?_⟩
      exact follow_findUpload shows fun _ => rfl
  | complete uploadId => exact follow_findUpload shows fun _ => rfl
  | abort uploadId =>
      exact follow_findUpload shows fun _ => ⟨.returned _, rfl⟩

/-! ## The sections -/

/-- A section that raises leaves the lock file. -/
theorem follow_locks {stage : Stage} {uploads : UploadDirs}
    (silent : ∀ error, eventOf index call stage (.raised error) = none)
    (locks : state.uploads.Locks uploads uploadId) (error : PyException) :
    Follow host lives index ⟨call, stage⟩ state (.raised error)
      { state with uploads } := by
  apply follow_still (silent error)
  · exact shows_locks shows locks
  · exact stands_of_free (.raised error)
  · exact le_rfl
  · exact fun uploadId made =>
      absurd made ((Stage.Free.raised error).unmade uploadId)

theorem follow_made {bucket key nameSpace : String} {metadata tags : Object}
    (request : call.request = .create bucket key nameSpace metadata tags)
    (stands : Stands lives index ⟨call, .made uploadId⟩) :
    let next := advanceStage host call (.made uploadId) state
    Follow host lives index ⟨call, .made uploadId⟩ state next.1 next.2 := by
  unfold advanceStage
  rw [request]
  have absent : lives uploadId = .absent := by
    simpa only [Stands, request] using stands
  apply follow_ofStep
  unfold onUploads
  rw [ensures_focus, ensures_bind]
  apply ensures_writeMeta.mono
  · intro _ uploads rewrites
    let target : UploadTarget :=
      ⟨call.tenant, bucket, key, nameSpace, metadata, tags⟩
    have happened : eventOf index call (.made uploadId)
        (.returned (.created uploadId bucket key)) =
          some (uploadId, .create target.reloaded) := by
      unfold eventOf
      rw [request]
    have step : Step (lives uploadId) (.create target.reloaded)
        (.opened target.reloaded ∅ : UploadLife) := by
      rw [absent]
      exact .create target.reloaded
    have here : Keeps { state.uploads.at uploadId with
        metaFile := some (UploadMeta.reloaded { target }) } .opened
          target.reloaded ∅ :=
      ⟨rfl, target.reloaded_reloaded, fun _ _ impossible => by cases impossible⟩
    have unowned : ∀ target, (lives uploadId).target = some target →
        target.tenant = call.tenant := by
      rw [absent]
      exact fun _ impossible => by cases impossible
    exact follow_event shows happened step unowned rewrites here
      (stands_of_free (.returned _)) le_rfl (Stage.Free.returned _).unmade
  · exact fun _ _ impossible => impossible.elim

theorem follow_uploadPart {partNumber : Int} {body : Bytes}
    (request : call.request = .uploadPart uploadId partNumber body) :
    let next := advanceStage host call .admitted state
    Follow host lives index ⟨call, .admitted⟩ state next.1 next.2 := by
  unfold advanceStage
  rw [request]
  apply follow_ofStep
  unfold onUploads
  rw [ensures_focus, ensures_bind]
  apply ensures_uploadPartSection.mono
  · rintro reply uploads ⟨record, read, owned, isOpen, rewrites⟩
    obtain ⟨target, parts, life, rfl, keeps⟩ :=
      (shows uploadId).opened read isOpen
    have happened : eventOf index call .admitted (.returned reply) =
        some (uploadId, .accept partNumber.toNat body) := by
      unfold eventOf
      rw [request]
    have step : Step (lives uploadId) (.accept partNumber.toNat body)
        (.opened target (parts.insert partNumber.toNat body)) := by
      rw [life]
      exact .accept target parts _ body
    exact follow_event shows happened step (target_of life owned rfl) rewrites
      (keeps.withPart partNumber.toNat body) (stands_of_free (.returned reply))
      le_rfl (Stage.Free.returned reply).unmade
  · intro error uploads locks
    apply follow_locks shows _ locks error
    intro error
    unfold eventOf
    rw [request]

theorem follow_claim (request : call.request = .complete uploadId) :
    let next := advanceStage host call .admitted state
    Follow host lives index ⟨call, .admitted⟩ state next.1 next.2 := by
  unfold advanceStage
  rw [request]
  apply follow_ofStep
  unfold onUploads
  rw [ensures_focus, ensures_bind]
  apply ensures_claimSection.mono
  · rintro claim uploads
      ⟨record, bodies, read, owned, isOpen, rfl, found, rewrites⟩
    obtain ⟨target, parts, life, rfl, keeps⟩ :=
      (shows uploadId).opened read isOpen
    have step : Step (lives uploadId) (.claim index)
        (.claimed index target parts) := by
      rw [life]
      exact .claim target parts index
    let record : UploadMeta := ⟨target, parts.map partRecord, .completing⟩
    have happened : eventOf index call .admitted
        (.claimed record bodies.flatten) = some (uploadId, .claim index) := by
      unfold eventOf
      rw [request]
    have stands : Stands (Function.update lives uploadId
        (.claimed index target parts)) index
          ⟨call, .claimed record bodies.flatten⟩ := by
      simp only [Stands, request, Function.update_self]
      exact ⟨target, parts, rfl, owned, rfl, keeps.flatten_eq found⟩
    exact follow_event shows happened step (target_of life owned rfl) rewrites
      (keeps.withMeta .completing) stands le_rfl
      (fun _ made => by cases made)
  · intro error uploads locks
    apply follow_locks shows _ locks error
    intro error
    unfold eventOf
    rw [request]

theorem follow_abort (request : call.request = .abort uploadId) :
    let next := advanceStage host call .admitted state
    Follow host lives index ⟨call, .admitted⟩ state next.1 next.2 := by
  unfold advanceStage
  rw [request]
  apply follow_ofStep
  unfold onUploads
  rw [ensures_focus, ensures_bind]
  apply ensures_removeSection.mono
  · rintro _ uploads ⟨record, read, owned, isOpen, rewrites⟩
    obtain ⟨target, parts, life, rfl, -⟩ := (shows uploadId).opened read isOpen
    have step : Step (lives uploadId) (.abandon : UploadEvent) .closed := by
      rw [life]
      exact .abandon target parts
    have happened : eventOf index call .admitted
        (.cleared (.aborted uploadId)) = some (uploadId, .abandon) := by
      unfold eventOf
      rw [request]
    have stands : Stands (Function.update lives uploadId .closed) index
        ⟨call, .cleared (.aborted uploadId)⟩ := by
      simp only [Stands, request]
    exact follow_event shows happened step (target_of life owned rfl) rewrites rfl
      stands le_rfl
      (fun _ made => by cases made)
  · intro error uploads locks
    apply follow_locks shows _ locks error
    intro error
    unfold eventOf
    rw [request]

theorem follow_put {record : UploadMeta} {body : Bytes}
    (request : call.request = .complete uploadId)
    (stands : Stands lives index ⟨call, .claimed record body⟩) :
    let next := advanceStage host call (.claimed record body) state
    Follow host lives index ⟨call, .claimed record body⟩ state next.1 next.2 := by
  unfold advanceStage
  rw [request]
  dsimp only
  have agrees : Agrees index call.tenant uploadId (.claimed record body)
      (lives uploadId) := by
    simpa only [Stands, request] using stands
  obtain ⟨target, parts, life, owned, rfl, rfl⟩ := agrees
  have shown := shows uploadId
  rw [life] at shown
  have keeps : Keeps (state.uploads.at uploadId) .completing target parts :=
    shown
  let record : UploadMeta := ⟨target, parts.map partRecord, .completing⟩
  have drawn := supply_putObject host call
    (target.put (assembled parts)) state.gateway
  rcases run : putObject host call.session call.tenant
      (target.put (assembled parts)) state.gateway with
    ⟨error | stored, gateway⟩ <;> rw [run] at drawn
  · rw [@putAssembled_error _ _ _ record _ _ _ run]
    have silent : eventOf index call (.claimed record (assembled parts))
        (.failed error) = none := by
      unfold eventOf
      rw [request]
    have stands : Stands lives index ⟨call, .failed error⟩ := by
      simp only [Stands, request]
      exact ⟨target, parts, life, owned⟩
    exact follow_still silent shows stands drawn (fun _ made => by cases made)
  · rw [@putAssembled_ok _ _ _ record _ _ _ run]
    let receipt : Receipt := ⟨target.put (assembled parts), stored,
      record.parts.entries.length⟩
    have happened : eventOf index call (.claimed record (assembled parts))
        (.stored stored record.parts.entries.length) =
          some (uploadId, .store index receipt) := by
      unfold eventOf
      rw [request]
    have step : Step (lives uploadId) (.store index receipt)
        (.stored index receipt target parts) := by
      rw [life]
      exact .store target parts index receipt
    have stands : Stands (Function.update lives uploadId
        (.stored index receipt target parts)) index
          ⟨call, .stored stored record.parts.entries.length⟩ := by
      simp only [Stands, request, Function.update_self]
      exact ⟨receipt, target, parts, rfl, owned, rfl, rfl⟩
    exact @follow_event _ _ _ _ _ _ _ ⟨state.uploads, gateway⟩ _ _ _ shows
      happened step (target_of life owned rfl) (rewrites_self state.uploads uploadId)
      ⟨keeps, rfl, Dict.length_map partRecord parts⟩ stands drawn
      (fun _ made => by cases made)

theorem follow_reopen {error : PyException}
    (request : call.request = .complete uploadId)
    (stands : Stands lives index ⟨call, .failed error⟩) :
    let next := advanceStage host call (.failed error) state
    Follow host lives index ⟨call, .failed error⟩ state next.1 next.2 := by
  unfold advanceStage
  rw [request]
  have agrees : Agrees index call.tenant uploadId (.failed error) (lives uploadId) := by
    simpa only [Stands, request] using stands
  obtain ⟨target, parts, life, owned⟩ := agrees
  have shown := shows uploadId
  rw [life] at shown
  have keeps : Keeps (state.uploads.at uploadId) .completing target parts :=
    shown
  apply follow_ofStep
  unfold onUploads
  rw [ensures_focus, ensures_bind]
  apply ensures_reopenSection.mono
  · rintro _ uploads ⟨record, read, rewrites⟩
    cases Option.some.inj (keeps.metaFile.symm.trans read)
    have happened : eventOf index call (.failed error) (.raised error) =
        some (uploadId, .release index) := by
      unfold eventOf
      rw [request]
    have step : Step (lives uploadId) (.release index)
        (.opened target parts) := by
      rw [life]
      exact .release target parts index
    exact follow_event shows happened step (target_of life owned rfl) rewrites
      (keeps.withMeta .opened) (stands_of_free (.raised error)) le_rfl
      (Stage.Free.raised error).unmade
  · intro _ _ missing
    exact absurd (keeps.metaFile.symm.trans missing) (by simp)

theorem follow_clear {stored : StoredObject} {count : Nat}
    (request : call.request = .complete uploadId)
    (stands : Stands lives index ⟨call, .stored stored count⟩) :
    let next := advanceStage host call (.stored stored count) state
    Follow host lives index ⟨call, .stored stored count⟩ state next.1 next.2 := by
  unfold advanceStage
  rw [request]
  have agrees : Agrees index call.tenant uploadId (.stored stored count)
      (lives uploadId) := by
    simpa only [Stands, request] using stands
  obtain ⟨receipt, target, parts, life, owned, rfl, rfl⟩ := agrees
  have shown := shows uploadId
  rw [life] at shown
  obtain ⟨-, fits⟩ := shown
  apply follow_ofStep
  unfold onUploads
  rw [ensures_focus, ensures_bind]
  apply ensures_removeSection.mono
  · rintro _ uploads ⟨record, read, -, -, rewrites⟩
    let reply : MultipartReply :=
      .completed receipt.stored uploadId receipt.parts
    have happened : eventOf index call (.stored receipt.stored receipt.parts)
        (.cleared reply) = some (uploadId, .clear index) := by
      unfold eventOf
      rw [request]
    have step : Step (lives uploadId) (.clear index)
        (.cleared index receipt target parts) := by
      rw [life]
      exact .clear target parts index receipt
    have stands : Stands (Function.update lives uploadId
        (.cleared index receipt target parts)) index
          ⟨call, .cleared reply⟩ := by
      simp only [Stands, request, Function.update_self]
      exact ⟨receipt, target, parts, rfl, owned, rfl⟩
    exact follow_event shows happened step (target_of life owned rfl) rewrites
      ⟨rfl, fits⟩ stands le_rfl
      (fun _ made => by cases made)
  · intro error uploads locks
    apply follow_locks shows _ locks error
    intro error
    unfold eventOf
    rw [request]

theorem follow_unlink {reply : MultipartReply}
    (request : call.request = .complete uploadId ∨
      call.request = .abort uploadId)
    (stands : Stands lives index ⟨call, .cleared reply⟩) :
    let next := advanceStage host call (.cleared reply) state
    Follow host lives index ⟨call, .cleared reply⟩ state next.1 next.2 := by
  have unlinks : Ensures (unlinkLock uploadId) state.uploads
      (fun _ uploads => Follow host lives index ⟨call, .cleared reply⟩ state
        (.unlocked reply) { state with uploads })
      (fun _ _ => False) := by
    apply ensures_unlinkLock.mono
    · intro _ uploads rewrites
      have silent : eventOf index call (.cleared reply) (.unlocked reply) =
          none := by
        unfold eventOf
        rcases request with request | request <;> rw [request]
      apply follow_still silent
      · exact shows_rewrites shows rewrites (fun _ _ => rfl)
          ((shows uploadId).congr rfl rfl)
      · rcases request with request | request
        · simp only [Stands, request] at stands ⊢
          exact stands
        · simp only [Stands, request]
      · exact le_rfl
      · intro other made
        cases made
    · exact fun _ _ impossible => impossible
  rcases request with request | request <;>
  · unfold advanceStage
    rw [request]
    apply follow_ofStep
    unfold onUploads
    rw [ensures_focus, ensures_bind]
    apply unlinks.mono
    · exact fun _ _ follow => follow
    · exact fun _ _ impossible => impossible.elim

theorem follow_removeDir {reply : MultipartReply}
    (request : call.request = .complete uploadId ∨
      call.request = .abort uploadId)
    (stands : Stands lives index ⟨call, .unlocked reply⟩) :
    let next := advanceStage host call (.unlocked reply) state
    Follow host lives index ⟨call, .unlocked reply⟩ state next.1 next.2 := by
  have raised : ∀ error, eventOf index call (.unlocked reply) (.raised error) =
      none := by
    intro error
    unfold eventOf
    rcases request with request | request <;> rw [request]
  have removes : Ensures (removeDir uploadId) state.uploads
      (fun _ uploads => Follow host lives index ⟨call, .unlocked reply⟩ state
        (.returned reply) { state with uploads })
      (fun error uploads => Follow host lives index ⟨call, .unlocked reply⟩ state
        (.raised error) { state with uploads }) := by
    apply ensures_removeDir.mono
    · intro _ uploads same
      rcases request with request | request
      · have agrees : Agrees index call.tenant uploadId (.unlocked reply)
            (lives uploadId) := by
          simpa only [Stands, request] using stands
        obtain ⟨receipt, target, parts, life, owned, rfl⟩ := agrees
        have shown := shows uploadId
        rw [life] at shown
        have happened : eventOf index call
            (.unlocked (.completed receipt.stored uploadId receipt.parts))
            (.returned (.completed receipt.stored uploadId receipt.parts)) =
              some (uploadId, .finish index) := by
          unfold eventOf
          rw [request]
        have step : Step (lives uploadId) (.finish index)
            (.closed : UploadLife) := by
          rw [life]
          exact .finish target parts index receipt
        have rewrites : state.uploads.Rewrites uploads uploadId
            (state.uploads.at uploadId) := by
          intro other
          rw [same other]
          exact rewrites_self state.uploads uploadId other
        exact follow_event shows happened step (target_of life owned rfl) rewrites
          shown.1
          (stands_of_free (.returned _)) le_rfl (Stage.Free.returned _).unmade
      · apply follow_still
        · unfold eventOf
          rw [request]
        · intro other
          rw [same other]
          exact shows other
        · exact stands_of_free (.returned _)
        · exact le_rfl
        · exact fun other made =>
            absurd made ((Stage.Free.returned _).unmade other)
    · rintro error _ rfl
      exact follow_still (raised error) shows (stands_of_free (.raised error))
        le_rfl fun other made => absurd made ((Stage.Free.raised error).unmade other)
  rcases request with request | request <;>
  · unfold advanceStage
    rw [request]
    apply follow_ofStep
    unfold onUploads
    rw [ensures_focus, ensures_bind]
    apply removes.mono
    · exact fun _ _ follow => follow
    · exact fun _ _ follow => follow

/-- A stage that does not belong to its request stays. -/
theorem follow_stay {stage : Stage}
    (stay : advanceStage host call stage state = (stage, state))
    (silent : eventOf index call stage stage = none)
    (stands : Stands lives index ⟨call, stage⟩) :
    let next := advanceStage host call stage state
    Follow host lives index ⟨call, stage⟩ state next.1 next.2 := by
  rw [stay]
  exact follow_still silent shows stands le_rfl fun _ made => .inl made

/-- Every turn follows the protocol. -/
theorem follow_advanceStage (fresh : Function.Injective host.uuid4)
    (drawn : ∀ uploadId, lives uploadId ≠ .absent → Drawn host state uploadId)
    {stage : Stage} (stands : Stands lives index ⟨call, stage⟩) :
    let next := advanceStage host call stage state
    Follow host lives index ⟨call, stage⟩ state next.1 next.2 := by
  cases request : call.request with
  | create bucket key nameSpace metadata tags =>
      cases stage with
      | entered => exact follow_entered shows fresh drawn
      | made uploadId => exact follow_made shows request stands
      | _ =>
          apply follow_stay shows _ _ stands
          · unfold advanceStage
            rw [request]
          · unfold eventOf
            rw [request]
  | uploadPart uploadId partNumber body =>
      cases stage with
      | entered => exact follow_entered shows fresh drawn
      | admitted => exact follow_uploadPart shows request
      | _ =>
          apply follow_stay shows _ _ stands
          · unfold advanceStage
            rw [request]
          · unfold eventOf
            rw [request]
  | complete uploadId =>
      cases stage with
      | entered => exact follow_entered shows fresh drawn
      | admitted => exact follow_claim shows request
      | claimed record body => exact follow_put shows request stands
      | failed error => exact follow_reopen shows request stands
      | stored stored parts => exact follow_clear shows request stands
      | cleared reply => exact follow_unlink shows (.inl request) stands
      | unlocked reply => exact follow_removeDir shows (.inl request) stands
      | _ =>
          apply follow_stay shows _ _ stands
          · unfold advanceStage
            rw [request]
          · unfold eventOf
            rw [request]
  | abort uploadId =>
      cases stage with
      | entered => exact follow_entered shows fresh drawn
      | admitted => exact follow_abort shows request
      | cleared reply => exact follow_unlink shows (.inr request) stands
      | unlocked reply => exact follow_removeDir shows (.inr request) stands
      | _ =>
          apply follow_stay shows _ _ stands
          · unfold advanceStage
            rw [request]
          · unfold eventOf
            rw [request]

end Steps

end Multipart

end Urp
