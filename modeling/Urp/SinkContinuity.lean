import Urp.EdgeSync
import Urp.Library.Run

/-!
# Continuity at the sink

The local sink verifies every batch by itself and carries nothing from one
batch to the next.  The source events that it records form one chain exactly
if the batches offered to it start where the recorded events end.
-/

namespace Urp

open Python Program LocalLedgerSink

/-- Events of the site that are offered as one batch. -/
structure Offer where
  session : Session
  events : List LedgerEvent
  values : ∀ event ∈ events, event.HasValues

def sinkStep (host : Host) (siteId : String) (state : LedgerState)
    (offer : Offer) : Except PyException SyncReceipt × LedgerState :=
  accept host offer.session ⟨siteId, offer.events⟩ state

abbrev SinkVisit :=
  Run.Visit LedgerState Offer (Except PyException SyncReceipt)

/-- The events that the ledger reads back as. -/
def LedgerState.rows (host : Host) (ledger : LedgerState) : List LedgerEvent :=
  match (JSONLLedger.readUnlocked host ledger).1 with
  | .ok rows => rows
  | .error _ => []

/-- The events of the batch that the visit added to the sink's ledger. -/
def recorded (host : Host) (v : SinkVisit) : List LedgerEvent :=
  v.input.events.take
    ((v.after.rows host).length - (v.before.rows host).length)

/-- The source events that the sink has recorded. -/
def acceptedEvents (host : Host) (history : List SinkVisit) :
    List LedgerEvent :=
  history.flatMap (recorded host)

/-- An accepted batch starts where the recorded events end, and they form one
chain. -/
structure Continuous (host : Host) (past : List SinkVisit) (v : SinkVisit) :
    Prop where
  starts : v.output.isOk = true → ∀ first, v.input.events.head? = some first →
    first.prevHash = lastHash (acceptedEvents host past)
  chain : Linked none (acceptedEvents host past ++ recorded host v)

/-- If the first event of the batch has its own hash and can be recorded, it
starts where the recorded events end. -/
def Continues (host : Host) (past : List SinkVisit) (v : SinkVisit) : Prop :=
  ∀ first, v.input.events.head? = some first →
    first.verifies first.prevHash = true →
      first.isReceivable v.input.session = true →
        first.prevHash = lastHash (acceptedEvents host past)

/-! ## The leading events -/

theorem leading_stamps (session : Session) (previous : Option String)
    (events : List LedgerEvent) :
    leading session previous events <+: events := by
  induction events generalizing previous with
  | nil => exact List.prefix_rfl
  | cons event rest ih =>
      unfold leading
      split
      · exact List.prefix_cons_inj event |>.mpr (ih event.eventHash)
      · exact List.nil_prefix

theorem linked_leading (session : Session) (previous : Option String)
    (events : List LedgerEvent) :
    Linked previous (leading session previous events) := by
  induction events generalizing previous with
  | nil => trivial
  | cons event rest ih =>
      unfold leading
      split
      · rename_i leads
        simp only [LedgerEvent.verifies, Bool.and_eq_true, beq_iff_eq] at leads
        obtain ⟨⟨named, hashed⟩, -⟩ := leads
        refine ⟨named, ?_, ih event.eventHash⟩
        rw [← hashed, named]
      · trivial

section Visits

variable {host : Host} (reliable : host.Reliable) {siteId : String}

theorem rows_of_file {rows : List LedgerEvent} {ledger : LedgerState}
    (readable : ∀ row ∈ rows, row.Readable)
    (file : ledger.file = ledgerFile rows) :
    ledger.rows host = rows.map LedgerEvent.canonical := by
  have read := readUnlocked_ledgerFile host readable ledger.supply
  rw [← file] at read
  unfold LedgerState.rows
  rw [read]

include reliable

/-- A visit records the leading events of its batch, and returns exactly if
they are all. -/
theorem recorded_visit {state : LedgerState} (healthy : state.Healthy)
    (offer : Offer) :
    let v := Run.visit (sinkStep host siteId) state offer
    let leads := leading offer.session
      (offer.events.head?.bind LedgerEvent.prevHash) offer.events
    recorded host v = leads ∧ (v.output.isOk = true ↔ leads = offer.events) ∧
      v.after.Healthy := by
  intro v leads
  obtain ⟨rows, readable, file⟩ := healthy
  have exits := @ensures_accept host offer.session reliable
    ⟨siteId, offer.events⟩ offer.values rows state readable file
  have held : Holds host siteId rows leads v.after ∧
      (v.output.isOk = true ↔ leads = offer.events) := by
    rcases run : accept host offer.session ⟨siteId, offer.events⟩ state with
      ⟨error | receipt, later⟩
    · obtain ⟨different, held⟩ := exits.of_error run
      simp only [v, Run.visit, sinkStep, run]
      exact ⟨held, iff_of_false (by simp [Except.isOk, Except.toBool]) different⟩
    · obtain ⟨same, -, held⟩ := exits.of_ok run
      simp only [v, Run.visit, sinkStep, run]
      exact ⟨held, iff_of_true rfl same⟩
  obtain ⟨⟨added, copies, addedReadable, later⟩, returns⟩ := held
  have allReadable : ∀ row ∈ rows ++ added, row.Readable := by
    rw [List.forall_mem_append]
    exact ⟨readable, addedReadable⟩
  refine ⟨?_, returns, rows ++ added, allReadable, later⟩
  have count : (v.after.rows host).length - (v.before.rows host).length =
      leads.length := by
    have before : v.before.rows host = rows.map LedgerEvent.canonical :=
      rows_of_file readable file
    rw [rows_of_file allReadable later, before, copies.length_eq]
    simp
  unfold recorded
  rw [count]
  exact (List.prefix_iff_eq_take.mp (leading_stamps _ _ _)).symm

/-- After events that form a chain, a visit is continuous exactly if its batch
continues them. -/
theorem continuous_iff_continues {history : List SinkVisit}
    {state : LedgerState} (healthy : state.Healthy)
    (chain : Linked none (acceptedEvents host history)) (offer : Offer) :
    Continuous host history (Run.visit (sinkStep host siteId) state offer) ↔
      Continues host history
        (Run.visit (sinkStep host siteId) state offer) := by
  have visit := @recorded_visit host reliable siteId state healthy offer
  obtain ⟨v, eq⟩ : ∃ v, v = Run.visit (sinkStep host siteId) state offer :=
    ⟨_, rfl⟩
  have input : v.input = offer := by rw [eq]; rfl
  rw [← eq] at visit ⊢
  obtain ⟨recorded, returns, -⟩ := visit
  have linked := linked_leading offer.session
    (offer.events.head?.bind LedgerEvent.prevHash) offer.events
  unfold Continues
  rw [input]
  constructor
  · intro continuous first head verified receivable
    have chained := continuous.chain
    rw [recorded, linked_none_append] at chained
    obtain ⟨rest, events⟩ := List.head?_eq_some_iff.mp head
    rw [events] at chained
    simp only [List.head?_cons, Option.bind_some, leading, verified, receivable,
      Bool.and_self, if_true] at chained
    exact chained.2.1
  · intro continues
    cases events : offer.events with
    | nil =>
        rw [events] at recorded
        refine ⟨?_, ?_⟩
        · intro _ first head
          rw [input, events] at head
          cases head
        · rw [recorded]
          simpa [leading] using chain
    | cons first rest =>
        rw [events] at recorded returns linked continues
        simp only [List.head?_cons, Option.bind_some] at recorded returns linked
        by_cases leads : (first.verifies first.prevHash &&
            first.isReceivable offer.session) = true
        · obtain ⟨verified, receivable⟩ := Bool.and_eq_true_iff.mp leads
          have same := continues first rfl verified receivable
          refine ⟨?_, ?_⟩
          · intro _ other head
            rw [input, events] at head
            cases head
            exact same
          · rw [recorded, linked_none_append, ← same]
            exact ⟨chain, linked⟩
        · have none : leading offer.session first.prevHash (first :: rest) =
              [] := by
            unfold leading
            rw [if_neg leads]
          rw [none] at recorded returns
          refine ⟨?_, ?_⟩
          · intro returned
            exact absurd (returns.mp returned) (by simp)
          · rw [recorded, List.append_nil]
            exact chain

/-- The source events at the sink form one chain throughout a run, and every
batch that it accepts continues them, exactly if every batch offered whose
first event it would record does. -/
theorem sink_continuous_iff (siteId : String) (supply : Supply)
    (offers : List Offer) :
    Run.Each (Continuous host)
        (Run.visits (sinkStep host siteId) { supply } offers) ↔
      Run.Each (Continues host)
        (Run.visits (sinkStep host siteId) { supply } offers) := by
  let good : List SinkVisit → LedgerState → Prop := fun history state =>
    state.Healthy ∧ Linked none (acceptedEvents host history)
  apply @Run.each_iff_of_step _ _ _ (sinkStep host siteId) _ good
  · exact ⟨⟨[], by simp, rfl⟩, trivial⟩
  · rintro history state offer ⟨healthy, chain⟩
    exact continuous_iff_continues reliable healthy chain offer
  · rintro history state offer ⟨healthy, chain⟩ continues
    obtain ⟨-, -, stillHealthy⟩ :=
      @recorded_visit host reliable siteId state healthy offer
    have continuous :=
      (continuous_iff_continues reliable healthy chain offer).mpr continues
    refine ⟨stillHealthy, ?_⟩
    unfold acceptedEvents
    rw [List.flatMap_append, List.flatMap_singleton]
    exact continuous.chain

end Visits

/-! ## A batch offered twice -/

/-- A sample event of acme's, chained to this hash, as a batch. -/
def sampleOffer (eventId : String) (previous : Option String) : Offer where
  session := {}
  events := [(sampleEvent "acme" eventId).withChainHash previous]
  values := by
    intro other member
    rw [List.mem_singleton.mp member]
    exact .inl rfl

theorem verifies_withChainHash (event : LedgerEvent)
    (previous : Option String) :
    (event.withChainHash previous).verifies previous = true := by
  simp only [LedgerEvent.verifies, Bool.and_eq_true, beq_iff_eq]
  exact ⟨rfl, rfl⟩

/-- The sink takes such a batch, whatever it has recorded. -/
theorem recorded_sampleOffer {host : Host} (reliable : host.Reliable)
    {siteId : String} {state : LedgerState} (healthy : state.Healthy)
    (eventId : String) (previous : Option String) :
    recorded host (Run.visit (sinkStep host siteId) state
      (sampleOffer eventId previous)) =
        [(sampleEvent "acme" eventId).withChainHash previous] := by
  let event := (sampleEvent "acme" eventId).withChainHash previous
  have receivable : event.isReceivable {} = true := by
    have noBytes : event.details.toValue.hasBytes = false :=
      Value.hasBytes_of_isJson _ rfl
    have tenant : event.tenant ≠ "" := by
      change "acme" ≠ ""
      decide
    simp only [LedgerEvent.isReceivable, noBytes, Bool.and_eq_true, bne_iff_ne,
      Bool.not_false, and_true]
    exact ⟨rfl, tenant⟩
  have verified : event.verifies previous = true :=
    verifies_withChainHash _ previous
  have visit := @recorded_visit host reliable siteId state healthy
    (sampleOffer eventId previous)
  refine visit.1.trans ?_
  change leading {} previous [event] = [event]
  simp only [leading, verified, receivable, Bool.and_self, if_true]

/-- Events of one site, of which the second is chained to the first. -/
theorem sink_continuous_chain :
    Host.counting.Reliable ∧
      Run.Each (Continuous Host.counting)
        (Run.visits (sinkStep Host.counting "edge-1") {}
          [sampleOffer "evt_1" none,
            sampleOffer "evt_2"
              ((sampleEvent "acme" "evt_1").withChainHash none).eventHash]) := by
  have reliable := Host.counting_reliable
  refine ⟨reliable, (sink_continuous_iff reliable "edge-1" {} _).mpr ?_⟩
  have healthy : LedgerState.Healthy {} := ⟨[], by simp, rfl⟩
  have taken := @recorded_sampleOffer Host.counting reliable "edge-1" {}
    healthy "evt_1" none
  intro past v rest split
  cases past with
  | nil =>
      obtain ⟨rfl, -⟩ := List.cons.inj split
      intro first head _ _
      cases head
      rfl
  | cons w past =>
      obtain ⟨rfl, tail⟩ := List.cons.inj split
      cases past with
      | nil =>
          obtain ⟨rfl, -⟩ := List.cons.inj tail
          intro first head _ _
          cases head
          unfold acceptedEvents
          rw [List.flatMap_singleton, taken]
          rfl
      | cons _ past =>
          obtain ⟨-, nothing⟩ := List.cons.inj tail
          cases past <;> cases nothing

/-- The sink accepts a batch that it has already recorded. -/
theorem replayed_not_continuous :
    ¬ Run.Each (Continuous Host.counting)
      (Run.visits (sinkStep Host.counting "edge-1") {}
        [sampleOffer "evt_1" none, sampleOffer "evt_1" none]) := by
  intro continuous
  have reliable := Host.counting_reliable
  let step := sinkStep Host.counting "edge-1"
  let offer := sampleOffer "evt_1" none
  have healthy : LedgerState.Healthy {} := ⟨[], by simp, rfl⟩
  have again : ∀ state : LedgerState, state.Healthy →
      recorded Host.counting (Run.visit step state offer) =
        [(sampleEvent "acme" "evt_1").withChainHash none] :=
    fun state healthy => recorded_sampleOffer reliable healthy "evt_1" none
  have next : (step {} offer).2.Healthy :=
    (@recorded_visit Host.counting reliable "edge-1" {} healthy offer).2.2
  have second := (continuous [Run.visit step {} offer]
    (Run.visit step (step {} offer).2 offer) [] rfl).chain
  unfold acceptedEvents at second
  rw [List.flatMap_singleton, again _ healthy, again _ next] at second
  exact absurd second.2.2.1 (fun impossible => (nomatch impossible))

end Urp
