import Urp.Library.Assembly
import Urp.MultipartSections
import Urp.ObjectPuts

/-!
# The life of an upload

Every interleaving of multipart calls takes each upload through the protocol
of `Assembly`: the files of the upload show its life, and a call that has
claimed the upload stands where the life says.
-/

namespace Urp

open Python Program Assembly LocalS3Adapter

theorem Object.reloaded_reloaded (data : Object) :
    data.reloaded.reloaded = data.reloaded := by
  rw [Object.reloaded_of_noBytes (Object.hasBytes_reloaded data)]
  exact Object.sorted_sorted _

theorem UploadTarget.reloaded_reloaded (target : UploadTarget) :
    target.reloaded.reloaded = target.reloaded := by
  simp only [UploadTarget.reloaded, Object.reloaded_reloaded]

namespace Multipart

/-! ## The events of the calls -/

/-- What a completing call has to show for its put. -/
structure Receipt where
  put : ObjectPut
  stored : StoredObject
  parts : Nat

abbrev UploadEvent : Type := Event UploadTarget Nat Bytes Nat Receipt

abbrev UploadLife : Type := Life UploadTarget Nat Bytes Nat Receipt

/-- What a turn of the `index`-th call did to an upload. -/
def eventOf (index : Nat) (call : MultipartCall) (before after : Stage) :
    Option (String × UploadEvent) :=
  match call.request, before, after with
  | .create bucket key nameSpace metadata tags, .made uploadId, .returned _ =>
      let target : UploadTarget :=
        ⟨call.tenant, bucket, key, nameSpace, metadata, tags⟩
      some (uploadId, .create target.reloaded)
  | .uploadPart uploadId partNumber body, .admitted, .returned _ =>
      some (uploadId, .accept partNumber.toNat body)
  | .complete uploadId, .admitted, .claimed _ _ =>
      some (uploadId, .claim index)
  | .complete uploadId, .claimed record body, .stored stored parts =>
      some (uploadId,
        .store index ⟨record.target.put body, stored, parts⟩)
  | .complete uploadId, .failed _, .raised _ => some (uploadId, .release index)
  | .complete uploadId, .stored _ _, .cleared _ => some (uploadId, .clear index)
  | .complete uploadId, .unlocked _, .returned _ =>
      some (uploadId, .finish index)
  | .abort uploadId, .admitted, .cleared _ => some (uploadId, .abandon)
  | _, _, _ => none

abbrev MultipartVisit : Type :=
  Turns.Visit MultipartState MultipartCall RunningCall

def eventOfVisit (v : MultipartVisit) : Option (String × UploadEvent) :=
  v.output.bind fun turned =>
    eventOf turned.index turned.before.call turned.before.stage
      turned.after.stage

/-- The events of one upload. -/
def uploadEvent (uploadId : String) (v : MultipartVisit) : Option UploadEvent :=
  (eventOfVisit v).bind fun happened =>
    if happened.1 = uploadId then some happened.2 else none

def uploadEvents (uploadId : String) (history : List MultipartVisit) :
    List UploadEvent :=
  history.filterMap (uploadEvent uploadId)

/-! ## What the files show -/

/-- The bodies in ascending part number. -/
def assembled (parts : Dict Nat Bytes) : Bytes :=
  (partNumbers parts).flatMap fun partNumber =>
    (parts.lookup partNumber).getD []

/-- The files hold the target and the bodies of its parts. -/
structure Keeps (dir : UploadDir) (status : UploadStatus) (target : UploadTarget)
    (parts : Dict Nat Bytes) : Prop where
  metaFile : dir.metaFile = some ⟨target, parts.map partRecord, status⟩
  reloaded : target.reloaded = target
  partFiles : ∀ partNumber body, parts.lookup partNumber = some body →
    dir.partFiles.lookup (partFile partNumber) = some body

/-- The receipt is for the target with these parts. -/
structure Receipt.For (receipt : Receipt) (target : UploadTarget)
    (parts : Dict Nat Bytes) : Prop where
  put : receipt.put = target.put (assembled parts)
  parts : receipt.parts = parts.entries.length

def Shows (dir : UploadDir) : UploadLife → Prop
  | .absent => dir.metaFile = none
  | .opened target parts => Keeps dir .opened target parts
  | .claimed _ target parts => Keeps dir .completing target parts
  | .stored _ receipt target parts =>
      Keeps dir .completing target parts ∧ receipt.For target parts
  | .cleared _ receipt target parts =>
      dir.metaFile = none ∧ receipt.For target parts
  | .closed => dir.metaFile = none

/-- The stage of a completing call agrees with the life of its upload. -/
def Agrees (index : Nat) (tenant uploadId : String) : Stage → UploadLife → Prop
  | .claimed record body, life => ∃ target parts,
      life = .claimed index target parts ∧ target.tenant = tenant ∧
        record = ⟨target, parts.map partRecord, .completing⟩ ∧
        body = assembled parts
  | .failed _, life => ∃ target parts,
      life = .claimed index target parts ∧ target.tenant = tenant
  | .stored stored parts, life => ∃ receipt target held,
      life = .stored index receipt target held ∧ target.tenant = tenant ∧
        receipt.stored = stored ∧ receipt.parts = parts
  | .cleared reply, life | .unlocked reply, life => ∃ receipt target held,
      life = .cleared index receipt target held ∧ target.tenant = tenant ∧
        reply = .completed receipt.stored uploadId receipt.parts
  | _, _ => True

def Stands (lives : String → UploadLife) (index : Nat) (running : RunningCall) :
    Prop :=
  match running.call.request, running.stage with
  | .complete uploadId, stage =>
      Agrees index running.call.tenant uploadId stage (lives uploadId)
  | .create _ _ _ _ _, .made uploadId => lives uploadId = .absent
  | _, _ => True

/-- What an event does to the lives. -/
inductive Moves (lives : String → UploadLife) :
    Option (String × UploadEvent) → (String → UploadLife) → Prop where
  | still : Moves lives none lives
  | event (uploadId : String) (event : UploadEvent) (life : UploadLife) :
      Step (lives uploadId) event life →
      Moves lives (some (uploadId, event)) (Function.update lives uploadId life)

variable {host : Host} {lives next : String → UploadLife} {index : Nat}
variable {running other : RunningCall} {stage : Stage}
variable {state later : MultipartState}

/-- A stage names an owned life or agrees with every life. -/
theorem Agrees.owned {tenant uploadId : String} {life : UploadLife}
    (agrees : Agrees index tenant uploadId stage life) :
    life.owner = some index ∨ ∀ other, Agrees index tenant uploadId stage other := by
  cases stage with
  | claimed record body =>
      obtain ⟨target, parts, rfl, -⟩ := agrees
      exact .inl rfl
  | failed error =>
      obtain ⟨target, parts, rfl, -⟩ := agrees
      exact .inl rfl
  | stored stored parts =>
      obtain ⟨receipt, target, held, rfl, -⟩ := agrees
      exact .inl rfl
  | cleared reply =>
      obtain ⟨receipt, target, held, rfl, -⟩ := agrees
      exact .inl rfl
  | unlocked reply =>
      obtain ⟨receipt, target, held, rfl, -⟩ := agrees
      exact .inl rfl
  | _ => exact .inr fun _ => trivial

theorem Stands.congr (stands : Stands lives index running)
    (same : ∀ uploadId, (lives uploadId).owner = some index ∨
      running.stage = .made uploadId ∧ lives uploadId = .absent →
        next uploadId = lives uploadId) :
    Stands next index running := by
  unfold Stands at stands ⊢
  split
  · next uploadId request =>
      simp only [request] at stands
      rcases stands.owned with owned | always
      · rw [same uploadId (.inl owned)]
        exact stands
      · exact always _
  · next uploadId request stage =>
      simp only [request, stage] at stands
      rw [same uploadId (.inr ⟨stage, stands⟩)]
      exact stands
  · trivial

/-- The upload's identifier was drawn before. -/
def Drawn (host : Host) (state : MultipartState) (uploadId : String) : Prop :=
  ∃ k < state.gateway.supply.nextId, uploadId = host.idText "mpu" k

/-- A turn of a call keeps to the protocol. -/
structure Advances (host : Host) (lives next : String → UploadLife)
    (index : Nat) (running : RunningCall) (state later : MultipartState)
    (stage : Stage) : Prop where
  moves : Moves lives (eventOf index running.call running.stage stage) next
  owned : ∀ uploadId event target,
    eventOf index running.call running.stage stage = some (uploadId, event) →
      (lives uploadId).target = some target →
        target.tenant = running.call.tenant
  shows : ∀ uploadId, Shows (later.uploads.at uploadId) (next uploadId)
  stands : Stands next index ⟨running.call, stage⟩
  supply : state.gateway.supply.nextId ≤ later.gateway.supply.nextId
  made : ∀ uploadId, stage = .made uploadId → running.stage = .made uploadId ∨
    Drawn host later uploadId ∧ ¬ Drawn host state uploadId

/-- The history took every upload to its life, which the files show and the
calls agree with. -/
structure Follows (host : Host) (history : List MultipartVisit)
    (system : Turns.System MultipartState RunningCall)
    (lives : String → UploadLife) : Prop where
  leads : ∀ uploadId, Leads (uploadEvents uploadId history) (lives uploadId)
  shows : ∀ uploadId, Shows (system.shared.uploads.at uploadId) (lives uploadId)
  stands : ∀ index running, system.calls[index]? = some running →
    Stands lives index running
  drawn : ∀ uploadId, lives uploadId ≠ .absent →
    Drawn host system.shared uploadId
  making : ∀ (index : Nat) (running : RunningCall) uploadId, system.calls[index]? = some running →
    running.stage = .made uploadId → Drawn host system.shared uploadId
  apart : ∀ (index place : Nat) (running other : RunningCall) uploadId,
    system.calls[index]? = some running → system.calls[place]? = some other →
    running.stage = .made uploadId → other.stage = .made uploadId →
    index = place

theorem Drawn.mono {uploadId : String}
    (grows : state.gateway.supply.nextId ≤ later.gateway.supply.nextId)
    (drawn : Drawn host state uploadId) : Drawn host later uploadId := by
  obtain ⟨k, before, same⟩ := drawn
  exact ⟨k, Nat.lt_of_lt_of_le before grows, same⟩

section Events

variable {call : MultipartCall} {before after : Stage} {uploadId : String}
variable {event : UploadEvent}

/-- An owner's event is a turn of the owner. -/
theorem eventOf_owner
    (happened : eventOf index call before after = some (uploadId, event))
    {owner : Nat} (owned : event.owner = some owner) : owner = index := by
  unfold eventOf at happened
  split at happened <;> cases happened <;> cases owned <;> rfl

/-- A creation is the second step of the call that made the directory. -/
theorem eventOf_create {target : UploadTarget}
    (happened : eventOf index call before after =
      some (uploadId, .create target)) : before = .made uploadId := by
  unfold eventOf at happened
  split at happened
  · cases happened
    rfl
  all_goals cases happened

end Events

section Turn

variable {history : List MultipartVisit}
variable {system : Turns.System MultipartState RunningCall}

theorem Moves.next_eq {event : Option (String × UploadEvent)}
    (moves : Moves lives event next) {uploadId : String}
    (elsewhere : ∀ happened, event ≠ some (uploadId, happened)) :
    next uploadId = lives uploadId := by
  cases moves with
  | still => rfl
  | event moved event life happens =>
      apply Function.update_of_ne
      rintro rfl
      exact elsewhere event rfl

/-- The event of a life that changed. -/
theorem Moves.step {event : Option (String × UploadEvent)}
    (moves : Moves lives event next) {uploadId : String} {happened : UploadEvent}
    (here : event = some (uploadId, happened)) :
    Step (lives uploadId) happened (next uploadId) := by
  cases moves with
  | still => cases here
  | event moved event life happens =>
      cases here
      rw [Function.update_self]
      exact happens

/-- A turn of one call leaves the other calls where their uploads are. -/
theorem Follows.others (follows : Follows host history system lives)
    (present : system.calls[index]? = some running)
    (moves : Moves lives (eventOf index running.call running.stage stage) next)
    {place : Nat} (apart : place ≠ index)
    (also : system.calls[place]? = some other) : Stands next place other := by
  apply (follows.stands place other also).congr
  intro uploadId concerned
  apply moves.next_eq
  intro event happened
  have happens := moves.step happened
  rcases concerned with owned | ⟨made, absent⟩
  · exact apart (eventOf_owner happened (happens.owner_eq owned))
  · rw [absent] at happens
    generalize created : next uploadId = life at happens
    cases happens with
    | create target =>
        exact apart (follows.apart place index other running uploadId also
          present made (eventOf_create happened))

/-- A life begins with the call that made the directory. -/
theorem Moves.born (moves : Moves lives
      (eventOf index running.call running.stage stage) next) {uploadId : String}
    (absent : lives uploadId = .absent) (living : next uploadId ≠ .absent) :
    running.stage = .made uploadId := by
  by_contra elsewhere
  apply living
  rw [moves.next_eq, absent]
  intro event happened
  have happens := moves.step happened
  rw [absent] at happens
  generalize created : next uploadId = life at happens
  cases happens with
  | create target => exact elsewhere (eventOf_create happened)

theorem uploadEvents_append_singleton (uploadId : String)
    (history : List MultipartVisit) (v : MultipartVisit) :
    uploadEvents uploadId (history ++ [v]) =
      uploadEvents uploadId history ++ (uploadEvent uploadId v).toList := by
  unfold uploadEvents
  rw [List.filterMap_append, List.filterMap_cons]
  cases uploadEvent uploadId v <;> rfl

/-- The moves of the lives are the events of the history. -/
theorem Moves.leads {v : MultipartVisit} (moves : Moves lives (eventOfVisit v) next)
    {uploadId : String}
    (leads : Leads (uploadEvents uploadId history) (lives uploadId)) :
    Leads (uploadEvents uploadId (history ++ [v])) (next uploadId) := by
  rw [uploadEvents_append_singleton]
  cases event : uploadEvent uploadId v with
  | none =>
      rw [Option.toList_none, List.append_nil, moves.next_eq]
      · exact leads
      · intro happened here
        simp [uploadEvent, here] at event
  | some happened =>
      unfold uploadEvent at event
      obtain ⟨⟨moved, occurred⟩, here, same⟩ := Option.bind_eq_some_iff.mp event
      split at same
      · next equal =>
          cases same
          subst equal
          exact .step leads (moves.step here)
      · cases same

theorem Follows.turn (follows : Follows host history system lives)
    (present : system.calls[index]? = some running)
    (advances : Advances host lives next index running system.shared later stage)
    {v : MultipartVisit}
    (turned : v.output = some ⟨index, running, ⟨running.call, stage⟩⟩) :
    Follows host (history ++ [v])
      ⟨later, system.calls.set index ⟨running.call, stage⟩⟩ next := by
  have happened : eventOfVisit v =
      eventOf index running.call running.stage stage := by
    rw [eventOfVisit, turned]
    rfl
  have moves := advances.moves
  -- a directory just made has a new identifier, which no other call has
  have alone : ∀ {place : Nat} {other : RunningCall} {uploadId : String},
      place ≠ index → system.calls[place]? = some other →
      other.stage = .made uploadId → stage ≠ .made uploadId := by
    intro place other uploadId apart also otherMade made
    rcases advances.made uploadId made with before | ⟨-, new⟩
    · exact apart (follows.apart place index other running uploadId also present
        otherMade before)
    · exact new (follows.making place other uploadId also otherMade)
  constructor
  · intro uploadId
    rw [← happened] at moves
    exact moves.leads (follows.leads uploadId)
  · exact advances.shows
  · intro place other found
    rcases Turns.getElem?_set_cases found with ⟨rfl, rfl⟩ | ⟨apart, also⟩
    · exact advances.stands
    · exact follows.others present moves apart also
  · intro uploadId living
    apply Drawn.mono advances.supply
    by_cases absent : lives uploadId = .absent
    · exact follows.making index running uploadId present
        (moves.born absent living)
    · exact follows.drawn uploadId absent
  · intro place other uploadId found made
    rcases Turns.getElem?_set_cases found with ⟨rfl, rfl⟩ | ⟨apart, also⟩
    · rcases advances.made uploadId made with before | ⟨drawn, -⟩
      · exact (follows.making place running uploadId present before).mono
          advances.supply
      · exact drawn
    · exact (follows.making place other uploadId also made).mono
        advances.supply
  · intro first second one two uploadId firstFound secondFound firstMade
      secondMade
    rcases Turns.getElem?_set_cases firstFound with ⟨rfl, rfl⟩ | ⟨firstApart, firstAlso⟩ <;>
      rcases Turns.getElem?_set_cases secondFound with
        ⟨rfl, rfl⟩ | ⟨secondApart, secondAlso⟩
    · rfl
    · exact absurd firstMade (alone secondApart secondAlso secondMade)
    · exact absurd secondMade (alone firstApart firstAlso firstMade)
    · exact follows.apart first second one two uploadId firstAlso secondAlso
        firstMade secondMade

/-- A stage that names no upload agrees with every life. -/
theorem stands_free {call : MultipartCall}
    (free : ∀ uploadId life, Agrees index call.tenant uploadId stage life)
    (unmade : ∀ uploadId, stage ≠ .made uploadId) :
    Stands lives index ⟨call, stage⟩ := by
  unfold Stands
  split
  · exact free _ _
  · next uploadId _ made => exact absurd made (unmade uploadId)
  · trivial

theorem Follows.quiet (follows : Follows host history system lives)
    {v : MultipartVisit} (silent : v.output = none) :
    Follows host (history ++ [v]) system lives where
  leads uploadId := by
    have moves : Moves lives (eventOfVisit v) lives := by
      rw [eventOfVisit, silent]
      exact .still
    exact moves.leads (follows.leads uploadId)
  shows := follows.shows
  stands := follows.stands
  drawn := follows.drawn
  making := follows.making
  apart := follows.apart

theorem Follows.begin (follows : Follows host history system lives)
    (call : MultipartCall) :
    Follows host history
      { system with calls := system.calls ++ [enterCall call] } lives where
  leads := follows.leads
  shows := follows.shows
  stands := by
    intro index running found
    rcases Turns.getElem?_append_cases found with old | rfl
    · exact follows.stands index running old
    · apply stands_free
      · exact fun _ _ => trivial
      · intro uploadId made
        cases made
  drawn := follows.drawn
  making := by
    intro index running uploadId found made
    rcases Turns.getElem?_append_cases found with old | rfl
    · exact follows.making index running uploadId old made
    · cases made
  apart := by
    intro first second one two uploadId firstFound secondFound firstMade
      secondMade
    rcases Turns.getElem?_append_cases firstFound with firstOld | rfl
    · rcases Turns.getElem?_append_cases secondFound with secondOld | rfl
      · exact follows.apart first second one two uploadId firstOld secondOld
          firstMade secondMade
      · cases secondMade
    · cases firstMade

end Turn

/-! ## What the files show after a step -/

section Shows

variable {uploads middle : UploadDirs} {uploadId : String} {dir : UploadDir}
variable {life : UploadLife} {target : UploadTarget} {parts : Dict Nat Bytes}
variable {status : UploadStatus}

theorem Shows.congr (shows : Shows dir life) {next : UploadDir}
    (metaFile : next.metaFile = dir.metaFile)
    (partFiles : next.partFiles = dir.partFiles) : Shows next life := by
  have keeps : ∀ {status target parts}, Keeps dir status target parts →
      Keeps next status target parts := by
    intro status target parts keeps
    exact ⟨metaFile.trans keeps.metaFile, keeps.reloaded, fun n body held => by
      rw [partFiles]
      exact keeps.partFiles n body held⟩
  cases life with
  | absent => exact metaFile.trans shows
  | opened target parts => exact keeps shows
  | claimed owner target parts => exact keeps shows
  | stored owner receipt target parts => exact ⟨keeps shows.1, shows.2⟩
  | cleared owner receipt target parts => exact ⟨metaFile.trans shows.1, shows.2⟩
  | closed => exact metaFile.trans shows

/-- The other uploads show their lives as before. -/
theorem shows_rewrites (shows : ∀ other, Shows (uploads.at other) (lives other))
    (rewrites : uploads.Rewrites middle uploadId dir)
    (elsewhere : ∀ other, other ≠ uploadId → next other = lives other)
    (here : Shows dir (next uploadId)) (other : String) :
    Shows (middle.at other) (next other) := by
  rw [rewrites other]
  split
  · next same =>
      rw [← same]
      exact here
  · next different =>
      rw [elsewhere other (Ne.symm different)]
      exact shows other

theorem shows_locks (shows : ∀ other, Shows (uploads.at other) (lives other))
    (locks : uploads.Locks middle uploadId) (other : String) :
    Shows (middle.at other) (lives other) :=
  shows_rewrites shows locks (fun _ _ => rfl) ((shows uploadId).congr rfl rfl)
    other

/-- An open `meta.json` is of an open upload. -/
theorem Shows.opened {record : UploadMeta} (shows : Shows dir life)
    (read : dir.metaFile = some record) (isOpen : record.status = .opened) :
    ∃ target parts, life = .opened target parts ∧
      record = ⟨target, parts.map partRecord, .opened⟩ ∧
      Keeps dir .opened target parts := by
  have unread : dir.metaFile ≠ none := by
    rw [read]
    exact Option.some_ne_none _
  have notCompleting : ∀ {target parts},
      ¬ Keeps dir .completing target parts := by
    intro target parts keeps
    have same := read.symm.trans keeps.metaFile
    rw [Option.some.inj same] at isOpen
    cases isOpen
  cases life with
  | absent => exact absurd shows unread
  | opened target parts =>
      exact ⟨target, parts, rfl,
        Option.some.inj (read.symm.trans (Keeps.metaFile shows)), shows⟩
  | claimed owner target parts => exact absurd shows notCompleting
  | stored owner receipt target parts => exact absurd shows.1 notCompleting
  | cleared owner receipt target parts => exact absurd shows.1 unread
  | closed => exact absurd shows unread

theorem partFile_injective {one two : Nat} (same : partFile one = partFile two) :
    one = two := by
  let padded := fun n : Nat => List.replicate (8 - (Nat.toDigits 10 n).length) '0'
    ++ Nat.toDigits 10 n
  have value : ∀ n, Nat.ofDigitChars 10 (padded n) 0 = n := by
    intro n
    simp [padded, Nat.ofDigitChars_append, Nat.ofDigitChars_replicate_zero,
      Nat.ofDigitChars_ten_toDigits]
  have texts := congrArg String.toList same
  have equal : padded one = padded two := by
    simpa only [partFile, String.toList_append, String.toList_ofList,
      List.append_cancel_left_eq, List.append_cancel_right_eq] using texts
  rw [← value one, equal, value two]

/-- A new part beside the others. -/
theorem Keeps.withPart (keeps : Keeps dir .opened target parts)
    (partNumber : Nat) (body : Bytes) :
    Keeps (dir.withPart ⟨target, parts.map partRecord, .opened⟩ partNumber body)
      .opened target (parts.insert partNumber body) where
  metaFile := by
    simp only [UploadDir.withPart, UploadMeta.reloaded, keeps.reloaded,
      Dict.map_insert]
  reloaded := keeps.reloaded
  partFiles := by
    intro other held found
    rw [Dict.lookup_insert] at found
    split at found
    · next same =>
        cases found
        rw [← same]
        exact Dict.lookup_insert_self _ _ _
    · next different =>
        unfold UploadDir.withPart
        rw [Dict.lookup_insert_ne]
        · exact keeps.partFiles other held found
        · exact fun same => different (partFile_injective same)

/-- The same parts under another status. -/
theorem Keeps.withMeta (keeps : Keeps dir status target parts)
    (other : UploadStatus) :
    Keeps (dir.withMeta ⟨target, parts.map partRecord, other⟩) other target
      parts where
  metaFile := by
    simp only [UploadDir.withMeta, UploadMeta.reloaded, keeps.reloaded]
  reloaded := keeps.reloaded
  partFiles := keeps.partFiles

theorem flatten_of_lookups {bodies : List Bytes}
    (found : List.Forall₂ (fun partNumber body => parts.lookup partNumber = some body)
      (partNumbers parts) bodies) : bodies.flatten = assembled parts := by
  unfold assembled
  generalize partNumbers parts = ascending at found ⊢
  induction found with
  | nil => rfl
  | cons head tail ih =>
      rw [List.flatten_cons, List.flatMap_cons, ih, head]
      rfl

/-- The parts that the records find are the bodies that were accepted. -/
theorem Keeps.flatten_eq (keeps : Keeps dir status target parts)
    {bodies : List Bytes}
    (found : List.Forall₂ (Finds dir (parts.map partRecord))
      (partNumbers (parts.map partRecord)) bodies) :
    bodies.flatten = assembled parts := by
  have numbers : partNumbers (parts.map partRecord) = partNumbers parts := by
    unfold partNumbers
    rw [Dict.keys_map]
  rw [numbers] at found
  apply flatten_of_lookups
  apply found.imp
  rintro partNumber body ⟨record, listed, read⟩
  rw [Dict.lookup_map] at listed
  obtain ⟨own, held, rfl⟩ := Option.map_eq_some_iff.mp listed
  have same : some own = some body :=
    (keeps.partFiles partNumber own held).symm.trans read
  rw [held, same]

end Shows

end Multipart

end Urp
