import Urp.BackupRoundTrip
import Urp.EdgeSyncRuns
import Urp.SinkContinuity

/-!
# Restoring an edge site

A backup takes the site's ledger and leaves its cursor, so the restored site
starts to deliver from the beginning.  The sink stays without repetitions
exactly if nothing had been delivered.
-/

namespace Urp

open Python Program

/-! ## The files of a site -/

def ledgerPath : StatePath := ["ledger.jsonl"]

def cursorPath : StatePath := ["edge_sync_cursor.json"]

/-- The text of `edge_sync_cursor.json`. -/
def SyncCursor.text (cursor : SyncCursor) : Bytes :=
  utf8 (Json.indented 0 (.dict
    [("event_hash", optionalText cursor.eventHash),
      ("event_id", .str cursor.eventId),
      ("site_id", .str cursor.siteId)]) ++ ['\n'])

/-- The directory is the site's: its ledger and its cursor, among other
files. -/
structure EdgeWorld.StoredIn (world : EdgeWorld) (directory : StateDirectory) :
    Prop where
  ledger : (directory.lookup ledgerPath).getD [] = world.ledger.file
  cursor : directory.lookup cursorPath = world.cursor.map SyncCursor.text

/-- The directory of a site that keeps no other file. -/
def EdgeWorld.directory (world : EdgeWorld) : StateDirectory :=
  let ledger := StateDirectory.insert ∅ ledgerPath world.ledger.file rfl
  match world.cursor with
  | none => ledger
  | some cursor => ledger.insert cursorPath cursor.text rfl

theorem EdgeWorld.storedIn_directory (world : EdgeWorld) :
    world.StoredIn world.directory := by
  have apart : cursorPath ≠ ledgerPath := by
    decide
  unfold EdgeWorld.directory
  constructor
  · cases world.cursor with
    | none => simp [StateDirectory.insert, StateDirectory.lookup]
    | some cursor =>
        simp [StateDirectory.insert, StateDirectory.lookup,
          Dict.lookup_insert_ne _ _ apart]
  · cases world.cursor with
    | none =>
        simp only [StateDirectory.insert, StateDirectory.lookup,
          Dict.lookup_insert_ne _ _ apart.symm]
        rfl
    | some cursor => simp [StateDirectory.insert, StateDirectory.lookup]

/-! ## Later synchronisation -/

/-- A call of `sync`, for no tenant-bound principal. -/
structure SyncRequest where
  session : Session
  unbound : session.Unbound
  limit : Int

namespace SyncRequest

/-- The most events that the call delivers. -/
def count (request : SyncRequest) : Nat :=
  if 0 < request.limit ∧ request.limit ≤ 10000 then request.limit.toNat else 0

end SyncRequest

section Sync

variable (host : Host) (sync : DelayedLedgerSync)

def syncStep (world : EdgeWorld) (request : SyncRequest) :
    Except PyException SyncResult × EdgeWorld :=
  sync.run host request.session
    (LocalLedgerSink.accept host request.session) request.limit world

/-- The events of the site's ledger. -/
def EdgeWorld.eventIds (world : EdgeWorld) : List Value :=
  (world.ledger.rows host).map fun event => .str event.eventId

/-- The events of the site that the sink has recorded. -/
def EdgeWorld.sourceIds (world : EdgeWorld) : List Value :=
  (world.sink.rows host).map fun row => row.details.get "source_event_id"

/-- After each later call the sink has what it had and the next events of the
site, none of them twice. -/
def EdgeWorld.ContinuesFrom (reopened world : EdgeWorld) : Prop :=
  ∀ requests : List SyncRequest,
    let after := Run.final (syncStep host sync) reopened requests
    after.sourceIds host = (world.eventIds host).take
        ((world.sourceIds host).length +
          (requests.map SyncRequest.count).sum) ∧
      (after.sourceIds host).Nodup

end Sync

/-! ## One call -/

section Calls

variable {host : Host} {sync : DelayedLedgerSync}
variable {sent rest recorded : List LedgerEvent} {world : EdgeWorld}

theorem sourceIds_of_held (held : SinkHas host sync recorded world) :
    world.sourceIds host =
      recorded.map fun event => Value.str event.eventId := by
  obtain ⟨added, copies, readable, file⟩ := held
  rw [List.nil_append] at file
  unfold EdgeWorld.sourceIds
  rw [rows_of_file readable file, sources_of_received copies, List.map_map]
  rfl

theorem eventIds_of_site (site : SiteAt sync sent rest world) :
    world.eventIds host =
      (sent ++ rest).map fun event => Value.str event.eventId := by
  unfold EdgeWorld.eventIds
  rw [rows_of_file site.readable site.file, List.map_map]
  rfl

theorem nodup_eventIds (site : SiteAt sync sent rest world) :
    ((sent ++ rest).map fun event => Value.str event.eventId).Nodup := by
  have distinct := site.distinct
  have texts : ((sent ++ rest).map fun event => Value.str event.eventId) =
      ((sent ++ rest).map LedgerEvent.eventId).map Value.str := by
    rw [List.map_map]
    rfl
  rw [texts]
  exact distinct.map fun _ _ same => Value.str.inj same

open DelayedLedgerSync in
/-- A call delivers the next events. -/
theorem syncStep_of_site (reliable : host.Reliable)
    (site : SiteAt sync sent rest world)
    (held : SinkHas host sync recorded world) (request : SyncRequest) :
    let after := (syncStep host sync world request).2
    SiteAt sync (sent ++ rest.take request.count) (rest.drop request.count)
        after ∧
      SinkHas host sync (recorded ++ rest.take request.count) after := by
  obtain ⟨session, unbound, limit⟩ := request
  have verified := @verifySite_of_site host _ _ _ _ site limit
  by_cases valid : 0 < limit ∧ limit ≤ 10000
  · have count : SyncRequest.count ⟨session, unbound, limit⟩ = limit.toNat :=
      if_pos valid
    rw [if_neg (by omega)] at verified
    have loaded := @readSite_of_site host _ _ _ _ site _ unbound
    have selected := select_of_site site (List.append_nil rest).symm limit
    have ready : pending host session sync limit world =
        (.ok ⟨sync.siteId, (rest.take limit.toNat).map LedgerEvent.canonical⟩,
          world) :=
      (bind_ok verified).trans ((bind_ok loaded).trans selected)
    rw [← List.take_append_drop limit.toNat rest] at site
    have exits := ensures_deliver_accept reliable site held unbound
    rw [count]
    change SiteAt sync _ _ (run host session sync _ limit world).2 ∧
      SinkHas host sync _ (run host session sync _ limit world).2
    unfold DelayedLedgerSync.run
    rw [bind_ok ready]
    rcases delivered : deliver sync (sinkOrFailure host session none)
        ⟨sync.siteId, (rest.take limit.toNat).map LedgerEvent.canonical⟩ world
      with ⟨error | result, later⟩
    · exact (exits.of_error delivered).elim
    · obtain ⟨-, -, next, heldNext⟩ := exits.of_ok delivered
      have run := congrArg Prod.snd delivered
      change (deliver sync (LocalLedgerSink.accept host session) _ world).2 =
        later at run
      rw [run]
      exact ⟨next, heldNext⟩
  · have count : SyncRequest.count ⟨session, unbound, limit⟩ = 0 :=
      if_neg valid
    rw [if_pos (by omega)] at verified
    have refused : pending host session sync limit world = _ :=
      bind_error verified
    rw [count]
    change SiteAt sync _ _ (run host session sync _ limit world).2 ∧
      SinkHas host sync _ (run host session sync _ limit world).2
    unfold DelayedLedgerSync.run
    rw [bind_error refused]
    simpa using ⟨site, held⟩

/-- So do all later calls. -/
theorem syncAll_of_site (reliable : host.Reliable)
    (site : SiteAt sync sent rest world)
    (held : SinkHas host sync recorded world) (requests : List SyncRequest) :
    SinkHas host sync
      (recorded ++ rest.take (requests.map SyncRequest.count).sum)
      (Run.final (syncStep host sync) world requests) := by
  induction requests generalizing sent rest recorded world with
  | nil => simpa [Run.final] using held
  | cons request requests ih =>
      obtain ⟨next, heldNext⟩ := syncStep_of_site reliable site held request
      have later := ih next heldNext
      rw [List.append_assoc, ← List.take_add] at later
      exact later

end Calls

/-! ## After the restore -/

section Restore

variable {host : Host} {sync : DelayedLedgerSync}
variable {world : EdgeWorld} {directory : StateDirectory}
variable {key : Option String} {generatedAt : String}
variable {output : Option StatePath}

theorem not_isIncluded_cursorPath : ¬ IsIncluded cursorPath := by
  rintro ⟨item, included, head⟩
  cases head
  revert included
  decide

/-- The restored site has its ledger, and no cursor. -/
theorem storedIn_restored (stored : world.StoredIn directory)
    (apart : output ≠ some ledgerPath) {restored : StateDirectory}
    (lookup : ∀ path, restored.lookup path =
      if path ∈ stateFiles directory.paths output then directory.lookup path
      else none)
    (reopened : EdgeWorld) :
    reopened.StoredIn restored ↔
      reopened.ledger.file = world.ledger.file ∧ reopened.cursor = none := by
  have ledger : restored.lookup ledgerPath = directory.lookup ledgerPath := by
    rw [lookup]
    split
    · rfl
    · rename_i unlisted
      cases found : directory.lookup ledgerPath with
      | none => rfl
      | some data =>
          have member := StateDirectory.mem_paths_iff.mpr ⟨data, found⟩
          have included : IsIncluded ledgerPath :=
            ⟨"ledger.jsonl", by decide, rfl⟩
          exact absurd (mem_stateFiles_iff.mpr
            ⟨member, included, apart.symm, by decide⟩) unlisted
  have cursor : restored.lookup cursorPath = none := by
    rw [lookup]
    split
    · rename_i listed
      exact absurd (mem_stateFiles_iff.mp listed).2.1 not_isIncluded_cursorPath
    · rfl
  constructor
  · intro opened
    have file := opened.ledger
    rw [ledger, stored.ledger] at file
    have absent := opened.cursor
    rw [cursor] at absent
    exact ⟨file.symm, Option.map_eq_none_iff.mp absent.symm⟩
  · rintro ⟨file, absent⟩
    refine ⟨?_, ?_⟩
    · rw [ledger, stored.ledger, file]
    · rw [cursor, absent]
      rfl

/-- A restored site that delivered nothing before continues. -/
theorem continuesFrom_of_undelivered (reliable : host.Reliable)
    {rest : List LedgerEvent} (site : SiteAt sync [] rest world)
    (held : SinkHas host sync [] world) {reopened : EdgeWorld}
    (file : reopened.ledger.file = world.ledger.file)
    (cursor : reopened.cursor = none) (sink : reopened.sink = world.sink) :
    reopened.ContinuesFrom host sync world := by
  have reopenedSite : SiteAt sync [] rest reopened :=
    { site with file := file.trans site.file, cursor }
  have reopenedHeld : SinkHas host sync [] reopened := by
    unfold SinkHas
    rwa [sink]
  intro requests after
  have later := syncAll_of_site reliable reopenedSite reopenedHeld requests
  have sources := sourceIds_of_held later
  have before := sourceIds_of_held held
  have events := @eventIds_of_site host _ _ _ _ site
  have same : after.sourceIds host = (world.eventIds host).take
      ((world.sourceIds host).length +
        (requests.map SyncRequest.count).sum) := by
    rw [before, events]
    refine sources.trans ?_
    simp
  refine ⟨same, ?_⟩
  rw [same, events]
  exact (nodup_eventIds site).sublist (List.take_sublist _ _)

/-- One that delivered some event delivers the first one again. -/
theorem not_continuesFrom_of_delivered (reliable : host.Reliable)
    {first : LedgerEvent} {sent rest : List LedgerEvent}
    (site : SiteAt sync (first :: sent) rest world)
    (held : SinkHas host sync (first :: sent) world) {reopened : EdgeWorld}
    (file : reopened.ledger.file = world.ledger.file)
    (cursor : reopened.cursor = none) (sink : reopened.sink = world.sink) :
    ¬ reopened.ContinuesFrom host sync world := by
  have reopenedSite : SiteAt sync [] (first :: (sent ++ rest)) reopened :=
    { site with file := file.trans site.file, cursor }
  have reopenedHeld : SinkHas host sync (first :: sent) reopened := by
    unfold SinkHas
    rwa [sink]
  intro continues
  let request : SyncRequest := ⟨{}, .inl rfl, 1⟩
  have later := syncAll_of_site reliable reopenedSite reopenedHeld [request]
  have distinct := (continues [request]).2
  rw [sourceIds_of_held later] at distinct
  have count : ([request].map SyncRequest.count).sum = 1 := rfl
  rw [count] at distinct
  simp at distinct

/-- An archive beyond the limits is refused. -/
theorem importState_of_beyond {archive : BackupArchive}
    (beyond : ¬ archive.WithinLimits) (state : StateDirectory) :
    ∃ error, importState key archive state = .error error := by
  have refused : ∃ error, extractVerified key archive = .error error := by
    unfold extractVerified
    split
    · exact ⟨_, rfl⟩
    · split
      · exact ⟨_, rfl⟩
      · rename_i few small
        exact absurd ⟨Nat.le_of_not_lt few, Nat.le_of_not_lt small⟩ beyond
  obtain ⟨error, extracted⟩ := refused
  unfold importState
  rw [extracted]
  exact ⟨error, rfl⟩

section Sites

variable (reliable : host.Reliable) {sent rest : List LedgerEvent}
variable (site : SiteAt sync sent rest world) (held : SinkHas host sync sent world)
variable (stored : world.StoredIn directory) (apart : output ≠ some ledgerPath)

include reliable site held stored apart

/-- A site that continues after its restore had delivered nothing. -/
theorem undelivered_of_continues {restored : StateDirectory}
    (imported : importState key
      (exportState key generatedAt directory output) ∅ = .ok restored)
    (continues : ∀ reopened : EdgeWorld, reopened.StoredIn restored →
      reopened.sink = world.sink → reopened.ContinuesFrom host sync world) :
    (exportState key generatedAt directory output).WithinLimits ∧
      world.cursor = none := by
  have fits : (exportState key generatedAt directory output).WithinLimits := by
    by_contra beyond
    obtain ⟨error, refused⟩ := @importState_of_beyond key _ beyond ∅
    rw [refused] at imported
    cases imported
  refine ⟨fits, ?_⟩
  obtain ⟨other, otherImported, lookup, -⟩ :=
    restores_export directory output key generatedAt fits
  have same : restored = other :=
    Except.ok.inj (imported.symm.trans otherImported)
  subst same
  have opened := storedIn_restored stored apart lookup
  cases sent with
  | nil => exact site.cursor
  | cons first sent =>
      let reopened : EdgeWorld := { world with cursor := none }
      have failed := @not_continuesFrom_of_delivered host sync world reliable
        first sent rest site held reopened rfl rfl rfl
      exact absurd (continues reopened ((opened reopened).mpr ⟨rfl, rfl⟩) rfl)
        failed

theorem continues_of_undelivered
    (fits : (exportState key generatedAt directory output).WithinLimits)
    (cursor : world.cursor = none) :
    ∃ restored, importState key
        (exportState key generatedAt directory output) ∅ = .ok restored ∧
      ∀ reopened : EdgeWorld, reopened.StoredIn restored →
        reopened.sink = world.sink →
          reopened.ContinuesFrom host sync world := by
  obtain ⟨restored, imported, lookup, -⟩ :=
    restores_export directory output key generatedAt fits
  refine ⟨restored, imported, ?_⟩
  intro reopened opened sink
  obtain ⟨file, absent⟩ :=
    (storedIn_restored stored apart lookup reopened).mp opened
  have undelivered : sent = [] := by
    have none := site.cursor
    rw [cursor] at none
    simpa using none.symm
  subst undelivered
  exact continuesFrom_of_undelivered reliable site held file absent sink

end Sites

/-- A site with a cursor does not continue after its restore. -/
theorem not_continues_of_cursor (reliable : host.Reliable)
    {system : EdgeSystem} (sound : system.Sound host sync)
    (cursor : system.world.cursor.isSome = true) (apart : output ≠ some ledgerPath) :
    ¬ ∃ restored, importState key
        (exportState key generatedAt system.world.directory output) ∅ =
          .ok restored ∧
      ∀ reopened : EdgeWorld, reopened.StoredIn restored →
        reopened.sink = system.world.sink →
          reopened.ContinuesFrom host sync system.world := by
  obtain ⟨sent, rest, site, held, -⟩ := sound
  rintro ⟨restored, imported, continues⟩
  have delivered := (undelivered_of_continues reliable site held
    system.world.storedIn_directory apart imported continues).2
  rw [delivered] at cursor
  cases cursor

end Restore

/-! ## A site with one event -/

def sampleSystem (actions : List EdgeAction) : EdgeSystem :=
  Run.final (edgeStep Host.counting sampleSync) (.start {} {}) actions

/-- An append leaves no call behind, and the cursor where it is. -/
theorem final_append (host : Host) (sync : DelayedLedgerSync)
    (world : EdgeWorld) (session : Session) (new : SiteEvent) :
    ∃ later, Run.final (edgeStep host sync) ⟨world, .idle⟩
        [.append session new] = ⟨later, .idle⟩ ∧
      later.cursor = world.cursor :=
  ⟨_, rfl, rfl⟩

def firstAppend : EdgeAction :=
  .append {} sampleSiteEvent

end Urp
