import Urp.EdgeSync
import Urp.Library.Run

/-!
# Delivery in order

Appends to the site's ledger interleave with the steps of a `sync` call.  The
invariant splits the ledger into what the sink has recorded and what it has
not; every step that the system takes extends the one part or the other.
-/

namespace Urp

open Python Program

/-! ## The steps of a call -/

/-- An event for the site's ledger. -/
structure SiteEvent where
  event : LedgerEvent
  values : event.HasValues
  dated : event.createdAt ≠ ""

/-- How far the call that holds the lock has come. -/
inductive SyncCall where
  | idle
  | verified (session : Session) (limit : Int)
  | loaded (session : Session) (limit : Int) (events : List LedgerEvent)

structure EdgeSystem where
  world : EdgeWorld := {}
  call : SyncCall := .idle

/-- An append, or the next step of a call: it takes the lock and verifies the
chain, reads the ledger, and delivers its batch, unless the sink fails before
it accepts anything. -/
inductive EdgeAction where
  | append (session : Session) (new : SiteEvent)
  | enter (session : Session) (limit : Int)
  | load
  | finish (failure : Option PyException)

/-- The local sink, or one that fails at once. -/
def sinkOrFailure (host : Host) (session : Session) :
    Option PyException → LedgerSink
  | none => LocalLedgerSink.accept host session
  | some error => fun _ => Program.raise error

section Steps

variable (host : Host) (sync : DelayedLedgerSync)

open DelayedLedgerSync

/-- One action and, where a call ends, its outcome. -/
def edgeStep (system : EdgeSystem) (action : EdgeAction) :
    Option (Except PyException SyncResult) × EdgeSystem :=
  match action, system.call with
  | .append session new, call =>
      let appended := Program.focus EdgeWorld.ledgerLens
        (JSONLLedger.append host session new.event) system.world
      (none, ⟨appended.2, call⟩)
  | .enter session limit, .idle =>
      match verifySite host limit system.world with
      | (.ok (), later) => (none, ⟨later, .verified session limit⟩)
      | (.error error, later) => (some (.error error), ⟨later, .idle⟩)
  | .load, .verified session limit =>
      match readSite host session system.world with
      | (.ok events, later) => (none, ⟨later, .loaded session limit events⟩)
      | (.error error, later) => (some (.error error), ⟨later, .idle⟩)
  | .finish failure, .loaded session limit events =>
      let delivered := (select sync limit events >>=
        deliver sync (sinkOrFailure host session failure)) system.world
      (some delivered.1, ⟨delivered.2, .idle⟩)
  | _, _ => (none, system)

/-- The steps of a call with no append between them are the call. -/
theorem final_edgeStep_run (session : Session) (limit : Int)
    (failure : Option PyException) (world : EdgeWorld) :
    Run.final (edgeStep host sync) ⟨world, .idle⟩
        [.enter session limit, .load, .finish failure] =
      ⟨(run host session sync (sinkOrFailure host session failure) limit
        world).2, .idle⟩ := by
  unfold DelayedLedgerSync.run pending
  rcases entered : verifySite host limit world with ⟨error | ⟨⟩, first⟩
  · rw [bind_error (bind_error entered)]
    simp [Run.final, edgeStep, entered]
  · rcases loaded : readSite host session first with ⟨error | events, second⟩
    · rw [bind_error ((bind_ok entered).trans (bind_error loaded))]
      simp [Run.final, edgeStep, entered, loaded]
    · have split : ((verifySite host limit >>= fun _ =>
            readSite host session >>= fun events => select sync limit events)
            >>= deliver sync (sinkOrFailure host session failure)) world =
          (select sync limit events >>=
            deliver sync (sinkOrFailure host session failure)) second := by
        have begun := @bind_ok _ _ _ _ _ (fun _ =>
          readSite host session >>= fun events => select sync limit events)
          _ _ _ entered
        rcases selected : select sync limit events second with
          ⟨error | batch, third⟩
        · rw [bind_error (begun.trans ((bind_ok loaded).trans selected)),
            bind_error selected]
        · rw [bind_ok (begun.trans ((bind_ok loaded).trans selected)),
            bind_ok selected]
      rw [split]
      simp [Run.final, edgeStep, entered, loaded]

end Steps

/-! ## What is delivered and what is not -/

/-- The site's ledger is the events up to the cursor and the rest. -/
structure SiteAt (sync : DelayedLedgerSync) (sent rest : List LedgerEvent)
    (world : EdgeWorld) : Prop where
  file : world.ledger.file = ledgerFile (sent ++ rest)
  readable : ∀ event ∈ sent ++ rest, event.Readable
  named : ∀ event ∈ sent ++ rest, event.tenant ≠ ""
  linked : Linked none (sent ++ rest)
  distinct : ((sent ++ rest).map LedgerEvent.eventId).Nodup
  cursor : world.cursor = sent.getLast?.map fun event =>
    ⟨sync.siteId, event.eventId, event.eventHash⟩

/-- The sink has recorded these events of the site, as they read back. -/
def SinkHas (host : Host) (sync : DelayedLedgerSync)
    (recorded : List LedgerEvent) (world : EdgeWorld) : Prop :=
  LocalLedgerSink.Holds host sync.siteId []
    (recorded.map LedgerEvent.canonical) world.sink

/-- No principal is bound to a tenant. -/
def Session.Unbound (session : Session) : Prop :=
  session.currentTenant = none ∨ session.currentTenant = some ""

/-- The call has read the delivered events and some of the rest. -/
def SyncCall.Fits (delivered rest : List LedgerEvent) : SyncCall → Prop
  | .idle => True
  | .verified session _ => session.Unbound
  | .loaded session _ events => session.Unbound ∧
      ∃ early late, rest = early ++ late ∧
        events = (delivered ++ early).map LedgerEvent.canonical

/-- The invariant of a site that is being synchronised. -/
def EdgeSystem.Sound (host : Host) (sync : DelayedLedgerSync)
    (system : EdgeSystem) : Prop :=
  ∃ sent rest, SiteAt sync sent rest system.world ∧
    SinkHas host sync sent system.world ∧ system.call.Fits sent rest

/-- An appended event has a new identifier, and a call has no tenant-bound
principal. -/
def EdgeAction.Proper (host : Host) (system : EdgeSystem) :
    EdgeAction → Prop
  | .append _ new => ∀ events,
      (JSONLLedger.readUnlocked host system.world.ledger).1 = .ok events →
        new.event.eventId ∉ events.map LedgerEvent.eventId
  | .enter session _ => session.Unbound
  | .load => True
  | .finish _ => True

/-- The source identifiers at the sink are those of a prefix of the site's
ledger, in order and each once, and the prefix ends at the cursor. -/
def EdgeWorld.InOrder (host : Host) (world : EdgeWorld) : Prop :=
  ∃ delivered rest rows,
    (JSONLLedger.readUnlocked host world.ledger).1 = .ok (delivered ++ rest) ∧
    (JSONLLedger.readUnlocked host world.sink).1 = .ok rows ∧
    rows.map (fun row => row.details.get "source_event_id") =
      delivered.map (fun event => Value.str event.eventId) ∧
    ((delivered ++ rest).map LedgerEvent.eventId).Nodup ∧
    world.cursor.map SyncCursor.eventId =
      delivered.getLast?.map LedgerEvent.eventId

/-! ## Reading the site's ledger -/

theorem requireTenant_of_unbound {session : Session} (unbound : session.Unbound)
    (tenant : String) : requireTenant session tenant = .ok () := by
  unfold requireTenant
  rcases unbound with none | empty
  · rw [none]
  · rw [empty]
    rfl

theorem read_of_unbound {host : Host} {session : Session}
    (unbound : session.Unbound) {events : List LedgerEvent}
    {ledger : LedgerState} (readable : ∀ event ∈ events, event.Readable)
    (file : ledger.file = ledgerFile events) :
    JSONLLedger.read host session ledger =
      (.ok (events.map LedgerEvent.canonical), ledger) := by
  have read := readUnlocked_ledgerFile host readable ledger.supply
  rw [← file] at read
  unfold JSONLLedger.read
  rw [bind_ok read]
  rcases unbound with none | empty
  · rw [none]
    rfl
  · rw [empty]
    rfl

section Reads

variable {host : Host} {sync : DelayedLedgerSync}
variable {sent rest : List LedgerEvent} {world : EdgeWorld}

open DelayedLedgerSync

/-- The chain of a site is verified, so only the limit is refused. -/
theorem verifySite_of_site (site : SiteAt sync sent rest world) (limit : Int) :
    verifySite host limit world =
      if limit ≤ 0 ∨ limit > 10000 then
        (.error (.valueError "sync limit must be between 1 and 10000"), world)
      else (.ok (), world) := by
  have read := readUnlocked_ledgerFile host site.readable world.ledger.supply
  rw [← site.file] at read
  have verified : JSONLLedger.verifyChain host world.ledger =
      (.ok true, world.ledger) := by
    unfold JSONLLedger.verifyChain
    rw [bind_ok read]
    simp only [isChain_canonical site.linked]
    rfl
  unfold verifySite
  split
  · rfl
  · have whole := @focus_of_run _ _ _ _ EdgeWorld.ledgerLens _ world _ _ verified
    exact bind_ok whole

theorem ensures_verifySite (site : SiteAt sync sent rest world)
    (limit : Int) :
    Ensures (verifySite host limit) world (fun _ later => later = world)
      (fun _ later => later = world) := by
  have run := @verifySite_of_site host _ _ _ _ site limit
  split at run
  · exact (ensures_of_raise run).mpr rfl
  · exact (ensures_of_run run).mpr rfl

theorem readSite_of_site (site : SiteAt sync sent rest world)
    {session : Session} (unbound : session.Unbound) :
    readSite host session world =
      (.ok ((sent ++ rest).map LedgerEvent.canonical), world) := by
  have read := @read_of_unbound host _ unbound _ _ site.readable site.file
  exact focus_of_run read

theorem afterLast_append {cursor : String} {early late : List LedgerEvent}
    {event : LedgerEvent} (same : event.eventId = cursor)
    (absent : cursor ∉ late.map LedgerEvent.eventId) :
    afterLast cursor (early ++ event :: late) = some late := by
  have none : ∀ events : List LedgerEvent,
      cursor ∉ events.map LedgerEvent.eventId → afterLast cursor events = none := by
    intro events missing
    induction events with
    | nil => rfl
    | cons other others ih =>
        simp only [List.map_cons, List.mem_cons, not_or] at missing
        simp only [afterLast, ih missing.2]
        rw [if_neg (Ne.symm missing.1)]
  induction early with
  | nil => simp only [List.nil_append, afterLast, none late absent, same, if_true]
  | cons other others ih => simp only [List.cons_append, afterLast, ih]

/-- A batch starts after the sent events. -/
theorem select_of_site (site : SiteAt sync sent rest world)
    {early late : List LedgerEvent} (split : rest = early ++ late)
    (limit : Int) :
    select sync limit ((sent ++ early).map LedgerEvent.canonical) world =
      (.ok ⟨sync.siteId, (early.take limit.toNat).map LedgerEvent.canonical⟩,
        world) := by
  rcases List.eq_nil_or_concat' sent with rfl | ⟨before, last, rfl⟩
  · have cursor : readCursor sync world = (.ok none, world) := by
      unfold readCursor
      rw [get_bind, site.cursor]
      rfl
    unfold select
    rw [bind_ok cursor, List.map_take]
    rfl
  · have cursor : readCursor sync world = (.ok (some last.eventId), world) := by
      unfold readCursor
      rw [get_bind, site.cursor]
      simp only [List.getLast?_append, List.getLast?_singleton, Option.map_some,
        Option.some_or, if_true]
      rfl
    have named : last.eventId ≠ "" :=
      (site.readable last (by simp)).eventId
    have absent : last.eventId ∉
        (early.map LedgerEvent.canonical).map LedgerEvent.eventId := by
      have distinct := site.distinct
      simp only [split, List.map_append, List.nodup_append, List.mem_append,
        List.map_map] at distinct ⊢
      intro member
      exact distinct.2.2 last.eventId (.inr (by simp)) last.eventId
        (.inl member) rfl
    have found := @afterLast_append last.eventId
      (before.map LedgerEvent.canonical) (early.map LedgerEvent.canonical)
      last.canonical rfl absent
    have events : (before ++ [last] ++ early).map LedgerEvent.canonical =
        before.map LedgerEvent.canonical ++
          last.canonical :: early.map LedgerEvent.canonical := by
      simp
    unfold select
    rw [bind_ok cursor, events, List.map_take]
    simp only [textOr, named, if_false, found]
    rfl

/-! ## Delivering a batch -/

/-- The sink records a whole chain of events that it takes. -/
theorem leading_canonical {session : Session} {events : List LedgerEvent}
    {previous : Option String} (linked : Linked previous events)
    (receivable : ∀ event ∈ events,
      event.canonical.isReceivable session = true) :
    LocalLedgerSink.leading session previous
        (events.map LedgerEvent.canonical) =
      events.map LedgerEvent.canonical := by
  induction events generalizing previous with
  | nil => rfl
  | cons event rest ih =>
      obtain ⟨named, hashed, tail⟩ := linked
      have verified : event.canonical.verifies previous = true := by
        simp only [LedgerEvent.verifies, Bool.and_eq_true, beq_iff_eq,
          LedgerEvent.withChainHash_canonical]
        refine ⟨named, ?_⟩
        have hash : event.canonical.prevHash = previous := named
        rw [hash]
        exact hashed.symm
      obtain ⟨first, others⟩ := List.forall_mem_cons.mp receivable
      have tailLeads := ih tail others
      simp only [List.map_cons, LocalLedgerSink.leading, verified, first,
        Bool.and_self, if_true]
      exact congrArg _ tailLeads

theorem receivable_canonical {session : Session} (unbound : session.Unbound)
    {event : LedgerEvent} (readable : event.Readable)
    (named : event.tenant ≠ "") :
    event.canonical.isReceivable session = true := by
  have json : event.canonical.details.toValue.isJson = true := by
    have sorted := Value.isJson_sorted _ readable.details
    rwa [← Object.toValue_sorted] at sorted
  have noBytes := Value.hasBytes_of_isJson _ json
  have tenant : event.canonical.tenant ≠ "" := named
  simp only [LedgerEvent.isReceivable, requireTenant_of_unbound unbound,
    noBytes, Bool.and_eq_true, bne_iff_ne, Bool.not_false, and_true]
  exact ⟨rfl, tenant⟩

/-- A sink that fails at once leaves everything. -/
theorem ensures_deliver_failure (error : PyException) (session : Session)
    (batch : LedgerSyncBatch) :
    Ensures (deliver sync (sinkOrFailure host session (some error)) batch) world
      (fun _ later => batch.events = [] ∧ later = world)
      (fun _ later => later = world) := by
  unfold deliver
  cases last : batch.events.getLast? with
  | none =>
      have empty := List.getLast?_eq_none_iff.mp last
      simp only [readCursor, ensures_bind, Program.ensures_get]
      cases world.cursor with
      | none => exact ⟨empty, rfl⟩
      | some cursor =>
          dsimp only
          split
          · exact ⟨empty, rfl⟩
          · rfl
  | some event =>
      rw [ensures_bind, ensures_focus]
      rfl

/-- The local sink takes the next events of the site, and the cursor moves to
the last of them. -/
theorem ensures_deliver_accept (reliable : host.Reliable)
    {moved remaining : List LedgerEvent}
    (site : SiteAt sync sent (moved ++ remaining) world)
    {recorded : List LedgerEvent} (held : SinkHas host sync recorded world)
    {session : Session} (unbound : session.Unbound) :
    Ensures (deliver sync (sinkOrFailure host session none)
        ⟨sync.siteId, moved.map LedgerEvent.canonical⟩) world
      (fun result later => result.events = moved.length ∧
        later.ledger = world.ledger ∧
          SiteAt sync (sent ++ moved) remaining later ∧
          SinkHas host sync (recorded ++ moved) later)
      (fun _ _ => False) := by
  obtain ⟨added, copies, addedReadable, sinkFile⟩ := held
  have linked : Linked (lastHash sent) moved := by
    have whole := site.linked
    rw [linked_none_append, linked_append] at whole
    exact whole.2.1
  have member : ∀ event ∈ moved, event ∈ sent ++ (moved ++ remaining) := by
    intro event inMoved
    simp [inMoved]
  have leads := leading_canonical linked fun event inMoved =>
    receivable_canonical unbound (site.readable event (member event inMoved))
      (site.named event (member event inMoved))
  have values : ∀ event ∈ moved.map LedgerEvent.canonical,
      event.HasValues := by
    intro event inBatch
    obtain ⟨source, inMoved, rfl⟩ := List.mem_map.mp inBatch
    have sorted := Value.isJson_sorted _
      (site.readable source (member source inMoved)).details
    left
    rwa [← Object.toValue_sorted] at sorted
  rcases List.eq_nil_or_concat' moved with rfl | ⟨before, last, rfl⟩
  · unfold deliver
    simp only [List.map_nil, List.getLast?_nil, readCursor, ensures_bind,
      Program.ensures_get, site.cursor]
    have same : SiteAt sync (sent ++ []) remaining world ∧
        SinkHas host sync (recorded ++ []) world := by
      simp only [List.append_nil]
      exact ⟨by simpa using site, added, copies, addedReadable, sinkFile⟩
    cases sent.getLast? with
    | none => exact ⟨rfl, rfl, same⟩
    | some event =>
        simp only [Option.map_some, if_true]
        exact ⟨rfl, rfl, same⟩
  · have final : ((before ++ [last]).map LedgerEvent.canonical).getLast? =
        some last.canonical := by
      simp
    have first : ((before ++ [last]).map LedgerEvent.canonical).head?.bind
        LedgerEvent.prevHash = lastHash sent := by
      cases before with
      | nil => exact linked.1
      | cons event rest => exact linked.1
    unfold deliver
    simp only [final]
    rw [ensures_bind, ensures_focus]
    apply (LocalLedgerSink.ensures_accept reliable values addedReadable
      sinkFile).mono
    · rintro receipt later ⟨-, rfl, held⟩
      rw [first, leads] at held
      have hash : lastHash ((before ++ [last]).map LedgerEvent.canonical) =
          last.canonical.eventHash := by
        unfold lastHash
        rw [final]
        rfl
      simp only [hash, and_self, if_true, ensures_bind, ensures_modify]
      refine ⟨by simp, rfl, ?_, ?_⟩
      swap
      · unfold SinkHas
        rw [List.map_append]
        exact LocalLedgerSink.holds_append copies addedReadable held
      constructor
      · rw [List.append_assoc]
        exact site.file
      · rw [List.append_assoc]
        exact site.readable
      · rw [List.append_assoc]
        exact site.named
      · rw [List.append_assoc]
        exact site.linked
      · rw [List.append_assoc]
        exact site.distinct
      · simp [LedgerEvent.canonical]
    · rintro error later ⟨different, -⟩
      rw [first] at different
      exact different leads

/-- An append with a new identifier adds an event to the rest or leaves the
ledger. -/
theorem siteAt_append (site : SiteAt sync sent rest world)
    (session : Session) (new : SiteEvent)
    (fresh : ∀ events,
      (JSONLLedger.readUnlocked host world.ledger).1 = .ok events →
        new.event.eventId ∉ events.map LedgerEvent.eventId) :
    let later := (focus EdgeWorld.ledgerLens
      (JSONLLedger.append host session new.event) world).2
    later.sink = world.sink ∧
      ∃ added, SiteAt sync sent (rest ++ added) later := by
  intro later
  have exits := @ensures_append host session new.event _ world.ledger
    site.readable site.file
  have leaves : ∀ ledger : LedgerState, ledger.file = world.ledger.file →
      SiteAt sync sent (rest ++ []) { world with ledger } := by
    intro ledger file
    rw [List.append_nil]
    exact { site with file := file.trans site.file }
  rcases run : JSONLLedger.append host session new.event world.ledger with
    ⟨error | row, ledger⟩
  · have whole : focus EdgeWorld.ledgerLens
        (JSONLLedger.append host session new.event) world =
          (.error error, { world with ledger }) := focus_of_run run
    simp only [later, whole]
    exact ⟨trivial, [], leaves ledger (exits.of_error run)⟩
  · have whole : focus EdgeWorld.ledgerLens
        (JSONLLedger.append host session new.event) world =
          (.ok row, { world with ledger }) := focus_of_run run
    obtain ⟨named, identified, noBytes, file⟩ := exits.of_ok run
    have json : new.event.details.toValue.isJson = true := by
      rcases new.values with json | bytes
      · exact json
      · rw [noBytes] at bytes
        cases bytes
    let chained := new.event.withChainHash (lastHash (sent ++ rest))
    have readable : chained.Readable := ⟨identified, new.dated, json⟩
    have unused : new.event.eventId ∉
        (sent ++ rest).map LedgerEvent.eventId := by
      have read := readUnlocked_ledgerFile host site.readable
        world.ledger.supply
      rw [← site.file] at read
      have absent := fresh _ (congrArg Prod.fst read)
      rwa [List.map_map] at absent
    simp only [later, whole]
    refine ⟨trivial, [chained], ?_⟩
    constructor
    · rw [← List.append_assoc]
      exact file
    · intro event member
      rw [← List.append_assoc] at member
      rcases List.mem_append.mp member with early | last
      · exact site.readable event early
      · rw [List.mem_singleton.mp last]
        exact readable
    · intro event member
      rw [← List.append_assoc] at member
      rcases List.mem_append.mp member with early | last
      · exact site.named event early
      · rw [List.mem_singleton.mp last]
        exact named
    · rw [← List.append_assoc, linked_none_append]
      exact ⟨site.linked, rfl, rfl, trivial⟩
    · rw [← List.append_assoc, List.map_append, List.nodup_append]
      refine ⟨site.distinct, List.nodup_singleton _, ?_⟩
      intro eventId early other last same
      rw [List.map_singleton, List.mem_singleton] at last
      rw [same, last] at early
      exact unused early
    · exact site.cursor

end Reads

/-! ## Runs -/

section Runs

variable {host : Host} (reliable : host.Reliable) (sync : DelayedLedgerSync)

open DelayedLedgerSync

theorem SyncCall.Fits.append {sent rest : List LedgerEvent}
    {call : SyncCall} (fits : call.Fits sent rest)
    (added : List LedgerEvent) : call.Fits sent (rest ++ added) := by
  cases call with
  | idle => trivial
  | verified session limit => exact fits
  | loaded session limit events =>
      obtain ⟨unbound, early, late, rfl, loaded⟩ := fits
      exact ⟨unbound, early, late ++ added, by rw [List.append_assoc], loaded⟩

include reliable

/-- Every action keeps the invariant. -/
theorem sound_edgeStep {system : EdgeSystem} (sound : system.Sound host sync)
    {action : EdgeAction} (proper : action.Proper host system) :
    (edgeStep host sync system action).2.Sound host sync := by
  obtain ⟨world, call⟩ := system
  obtain ⟨sent, rest, site, held, fits⟩ := sound
  cases action with
  | append session new =>
      obtain ⟨sink, added, extended⟩ := siteAt_append site session new proper
      refine ⟨sent, rest ++ added, extended, ?_, fits.append added⟩
      unfold SinkHas at held ⊢
      rwa [← sink] at held
  | enter session limit =>
      cases call with
      | idle =>
          have exits := @ensures_verifySite host sync sent rest world site limit
          rcases run : verifySite host limit world with ⟨error | ⟨⟩, later⟩
          · cases exits.of_error run
            simp only [edgeStep, run]
            exact ⟨sent, rest, site, held, trivial⟩
          · cases exits.of_ok run
            simp only [edgeStep, run]
            exact ⟨sent, rest, site, held, proper⟩
      | verified _ _ => exact ⟨sent, rest, site, held, fits⟩
      | loaded _ _ _ => exact ⟨sent, rest, site, held, fits⟩
  | load =>
      cases call with
      | verified session limit =>
          simp only [edgeStep, readSite_of_site site fits]
          exact ⟨sent, rest, site, held, fits, rest, [], by simp, rfl⟩
      | idle => exact ⟨sent, rest, site, held, fits⟩
      | loaded _ _ _ => exact ⟨sent, rest, site, held, fits⟩
  | finish failure =>
      cases call with
      | loaded session limit events =>
          obtain ⟨unbound, early, late, split, rfl⟩ := fits
          let moved := early.take limit.toNat
          let remaining := early.drop limit.toNat ++ late
          have parts : rest = moved ++ remaining := by
            rw [split, ← List.append_assoc, List.take_append_drop]
          have selected := select_of_site site split limit
          simp only [edgeStep, bind_ok selected]
          cases failure with
          | none =>
              have exits := @ensures_deliver_accept host sync sent world
                reliable moved remaining (parts ▸ site) sent held session
                unbound
              rcases run : deliver sync (sinkOrFailure host session none)
                  ⟨sync.siteId, moved.map LedgerEvent.canonical⟩ world with
                ⟨error | result, later⟩
              · exact (exits.of_error run).elim
              · obtain ⟨-, -, next, heldNext⟩ := exits.of_ok run
                exact ⟨sent ++ moved, remaining, next, heldNext, trivial⟩
          | some error =>
              have exits := @ensures_deliver_failure host sync world error
                session ⟨sync.siteId, moved.map LedgerEvent.canonical⟩
              rcases run : deliver sync
                  (sinkOrFailure host session (some error))
                  ⟨sync.siteId, moved.map LedgerEvent.canonical⟩ world with
                ⟨error | result, later⟩
              · cases exits.of_error run
                exact ⟨sent, rest, site, held, trivial⟩
              · obtain ⟨-, rfl⟩ := exits.of_ok run
                exact ⟨sent, rest, site, held, trivial⟩
      | idle => exact ⟨sent, rest, site, held, fits⟩
      | verified _ _ => exact ⟨sent, rest, site, held, fits⟩

omit reliable in
/-- The rows of the sink name the events that they were made from. -/
theorem sources_of_received {siteId : String} {events rows : List LedgerEvent}
    (copies : List.Forall₂ (LocalLedgerSink.IsReceived host siteId) events
      rows) :
    (rows.map LedgerEvent.canonical).map
        (fun row => row.details.get "source_event_id") =
      events.map fun event => Value.str event.eventId := by
  induction copies with
  | nil => rfl
  | cons first _ ih =>
      obtain ⟨supply, previous, rfl⟩ := first
      simp only [List.map_cons, ih]
      refine congrArg (· :: _) ?_
      exact get_sorted (LedgerEvent.details _).distinct "source_event_id"

omit reliable in
theorem inOrder_of_site {sent rest : List LedgerEvent} {world : EdgeWorld}
    (site : SiteAt sync sent rest world)
    (held : SinkHas host sync sent world) : world.InOrder host := by
  obtain ⟨added, copies, addedReadable, sinkFile⟩ := held
  have read := readUnlocked_ledgerFile host site.readable world.ledger.supply
  rw [← site.file, List.map_append] at read
  have sink := readUnlocked_ledgerFile host addedReadable world.sink.supply
  rw [List.nil_append] at sinkFile
  rw [← sinkFile] at sink
  refine ⟨_, _, _, congrArg Prod.fst read, congrArg Prod.fst sink, ?_, ?_, ?_⟩
  · exact sources_of_received copies
  · rw [← List.map_append, List.map_map]
    exact site.distinct
  · rw [site.cursor]
    rw [List.getLast?_map, Option.map_map, Option.map_map]
    rfl

/-- The site and the sink before any event. -/
def EdgeSystem.start (supply sinkSupply : Supply) : EdgeSystem where
  world := { ledger := { supply }, sink := { supply := sinkSupply } }

omit reliable in
theorem sound_start (supply sinkSupply : Supply) :
    (EdgeSystem.start supply sinkSupply).Sound host sync := by
  refine ⟨[], [], ?_, ⟨[], .nil, by simp, rfl⟩, trivial⟩
  constructor
  · rfl
  · simp
  · simp
  · trivial
  · simp
  · rfl

theorem sound_run (supply sinkSupply : Supply) {actions : List EdgeAction}
    (proper : ∀ v ∈ Run.visits (edgeStep host sync)
      (.start supply sinkSupply) actions, v.input.Proper host v.before) :
    (Run.final (edgeStep host sync) (.start supply sinkSupply) actions).Sound
      host sync :=
  Run.final_guarded (sound_start sync supply sinkSupply)
    (fun _ _ proper before => sound_edgeStep reliable sync before proper)
    proper

/-- Whatever the order of appends and steps of `sync` calls, the sink holds
the prefix of the site's ledger that ends at the cursor. -/
theorem sync_in_order (supply sinkSupply : Supply) (actions : List EdgeAction)
    (proper : ∀ v ∈ Run.visits (edgeStep host sync)
      (.start supply sinkSupply) actions, v.input.Proper host v.before) :
    ∀ v ∈ Run.visits (edgeStep host sync) (.start supply sinkSupply) actions,
      v.before.world.InOrder host ∧ v.after.world.InOrder host := by
  have sound := Run.visits_guarded
    (sound_start sync supply sinkSupply)
    (fun _ _ proper before => sound_edgeStep reliable sync before proper)
    proper
  intro v member
  obtain ⟨⟨_, _, before, heldBefore, -⟩, ⟨_, _, after, heldAfter, -⟩⟩ :=
    sound v member
  exact ⟨inOrder_of_site sync before heldBefore,
    inOrder_of_site sync after heldAfter⟩

end Runs

/-- A site of one event. -/
def sampleSync : DelayedLedgerSync where
  siteId := "edge-1"
  named := by decide

def sampleSiteEvent : SiteEvent :=
  ⟨sampleEvent "acme" "evt_1", .inl rfl, by decide⟩

def sampleActions : List EdgeAction :=
  [.append {} sampleSiteEvent,
    .enter {} 500, .load, .finish none]

theorem sampleActions_proper :
    ∀ v ∈ Run.visits (edgeStep Host.counting sampleSync) (.start {} {})
      sampleActions, v.input.Proper Host.counting v.before := by
  intro v member
  simp only [sampleActions, Run.visits, List.mem_cons, List.not_mem_nil,
    or_false] at member
  rcases member with rfl | rfl | rfl | rfl
  · intro events read
    have empty := @readUnlocked_ledgerFile Host.counting [] (by simp) {}
    have same := (congrArg Prod.fst empty).symm.trans read
    cases same
    simp
  · exact .inl rfl
  · trivial
  · trivial

theorem sync_in_order_sample :
    (Run.visits (edgeStep Host.counting sampleSync) (.start {} {})
        sampleActions).length = sampleActions.length ∧
      ∀ v ∈ Run.visits (edgeStep Host.counting sampleSync) (.start {} {})
          sampleActions,
        v.before.world.InOrder Host.counting ∧
          v.after.world.InOrder Host.counting :=
  ⟨rfl, sync_in_order Host.counting_reliable sampleSync {} {} sampleActions
    sampleActions_proper⟩

end Urp
