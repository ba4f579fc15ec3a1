import Urp.SinkContinuity

/-!
# Batches that a sink takes in part

The local sink records the events of a batch one by one, so that a bad event
leaves the events before it in the ledger.  The main theorem says which
batches are recorded as a whole or not at all.
-/

namespace Urp

open Python Program LocalLedgerSink

/-- Every event follows the one before it, has its own hash and can be
recorded. -/
def admits (session : Session) : Option String → List LedgerEvent → Bool
  | _, [] => true
  | previous, event :: rest =>
      event.verifies previous && event.isReceivable session &&
        admits session event.eventHash rest

/-- A batch whose first event would be recorded is good as a whole. -/
def AllOrNone (session : Session) (events : List LedgerEvent) : Prop :=
  ∀ first, events.head? = some first →
    first.verifies first.prevHash = true →
      first.isReceivable session = true →
        admits session first.prevHash events = true

theorem leading_eq_self_iff {session : Session} {previous : Option String}
    {events : List LedgerEvent} :
    leading session previous events = events ↔
      admits session previous events = true := by
  induction events generalizing previous with
  | nil => exact iff_of_true rfl rfl
  | cons event rest ih =>
      rw [leading, admits]
      by_cases good : (event.verifies previous &&
          event.isReceivable session) = true
      · rw [if_pos good, good, Bool.true_and, ← ih]
        simp
      · rw [if_neg good]
        simp [good]

/-- The sink records all of the batch or none of it. -/
theorem allOrNone_iff {session : Session} {events : List LedgerEvent} :
    AllOrNone session events ↔
      leading session (events.head?.bind LedgerEvent.prevHash) events = [] ∨
        leading session (events.head?.bind LedgerEvent.prevHash) events =
          events := by
  cases events with
  | nil =>
      refine iff_of_true ?_ (.inl rfl)
      rintro first ⟨⟩
  | cons first rest =>
      rw [leading_eq_self_iff, List.head?_cons, Option.bind_some, leading]
      by_cases good : (first.verifies first.prevHash &&
          first.isReceivable session) = true
      · obtain ⟨verified, receivable⟩ := Bool.and_eq_true_iff.mp good
        rw [if_pos good]
        constructor
        · exact fun whole => .inr (whole first rfl verified receivable)
        · rintro (empty | whole) other ⟨⟩ - -
          · cases empty
          · exact whole
      · rw [if_neg good]
        refine iff_of_true ?_ (.inl rfl)
        rintro other ⟨⟩ verified receivable
        rw [verified, receivable] at good
        exact absurd rfl good

/-- A batch that fails leaves the sink's ledger exactly when its first event
fails already. -/
theorem failedAccept_unchanged_iff {host : Host} (reliable : host.Reliable)
    (siteId : String) {state : LedgerState} (healthy : state.Healthy)
    (offer : Offer) :
    (∀ error later,
      accept host offer.session ⟨siteId, offer.events⟩ state =
        (.error error, later) → later.file = state.file) ↔
      AllOrNone offer.session offer.events := by
  obtain ⟨rows, readable, file⟩ := healthy
  have exits := @ensures_accept host offer.session reliable
    ⟨siteId, offer.events⟩ offer.values rows state readable file
  rw [allOrNone_iff, ← ensures_onRaise_iff]
  constructor
  · intro unchanged
    have both := exits.and unchanged
    rcases run : accept host offer.session ⟨siteId, offer.events⟩ state with
      ⟨error | receipt, later⟩
    · obtain ⟨⟨-, added, copies, addedReadable, written⟩, same⟩ :=
        both.of_error run
      have allReadable : ∀ row ∈ rows ++ added, row.Readable := by
        rw [List.forall_mem_append]
        exact ⟨readable, addedReadable⟩
      have before := @rows_of_file host rows state readable file
      have after := @rows_of_file host (rows ++ added) state allReadable
        (same.symm.trans written)
      have count := congrArg List.length (before.symm.trans after)
      simp only [List.length_map, List.length_append, Nat.left_eq_add,
        List.length_eq_zero_iff] at count
      subst count
      exact .inl (List.forall₂_nil_right_iff.mp copies)
    · exact .inr (both.of_ok run).1.1
  · intro whole
    apply exits.mono
    · exact fun _ _ _ => trivial
    · rintro error later ⟨some, added, copies, -, written⟩
      have nothing := whole.resolve_right some
      rw [nothing] at copies
      rw [List.forall₂_nil_left_iff.mp copies, List.append_nil] at written
      rw [written, file]

/-- A good event, and one that names no predecessor. -/
def brokenOffer : Offer where
  session := {}
  events := [(sampleEvent "acme" "evt_1").withChainHash none,
    (sampleEvent "acme" "evt_2").withChainHash none]
  values := by
    intro other member
    simp only [List.mem_cons, List.not_mem_nil, or_false] at member
    rcases member with rfl | rfl
    · exact .inl rfl
    · exact .inl rfl

theorem isReceivable_sampleEvent (eventId : String) (previous : Option String) :
    ((sampleEvent "acme" eventId).withChainHash previous).isReceivable {} =
      true := by
  have noBytes : ((sampleEvent "acme" eventId).withChainHash
      previous).details.toValue.hasBytes = false :=
    Value.hasBytes_of_isJson _ rfl
  have tenant : ((sampleEvent "acme" eventId).withChainHash previous).tenant ≠
      "" := by
    change "acme" ≠ ""
    decide
  simp only [LedgerEvent.isReceivable, noBytes, Bool.and_eq_true, bne_iff_ne,
    Bool.not_false, and_true]
  exact ⟨rfl, tenant⟩

/-- A batch of one good event is recorded as a whole. -/
theorem failedAccept_unchanged_sample :
    Host.counting.Reliable ∧ LedgerState.Healthy {} ∧
      ∀ error later,
        accept Host.counting {} ⟨"edge-1", (sampleOffer "evt_1" none).events⟩ {} =
          (.error error, later) → later.file = ([] : Bytes) := by
  have healthy : LedgerState.Healthy {} := ⟨[], by simp, rfl⟩
  refine ⟨Host.counting_reliable, healthy, ?_⟩
  refine (failedAccept_unchanged_iff Host.counting_reliable "edge-1" healthy
    (sampleOffer "evt_1" none)).mpr ?_
  rintro first ⟨⟩ - -
  change admits {} none [(sampleEvent "acme" "evt_1").withChainHash none] = true
  simp only [admits, isReceivable_sampleEvent, verifies_withChainHash,
    Bool.and_self]

/-- The good event stays in the ledger when the batch is refused. -/
theorem failedAccept_records :
    ∃ error later,
      accept Host.counting {} ⟨"edge-1", brokenOffer.events⟩ {} =
        (.error error, later) ∧ later.file ≠ ([] : Bytes) := by
  let first := (sampleEvent "acme" "evt_1").withChainHash none
  have leads : leading {} none brokenOffer.events = [first] := by
    have unlinked : ((sampleEvent "acme" "evt_2").withChainHash none).verifies
        first.eventHash = false := by
      rfl
    simp only [brokenOffer, leading, verifies_withChainHash,
      isReceivable_sampleEvent, Bool.and_self, if_true, unlinked,
      Bool.false_and, Bool.false_eq_true, if_false, first]
  have exits := @ensures_accept Host.counting {} Host.counting_reliable
    ⟨"edge-1", brokenOffer.events⟩ brokenOffer.values [] {} (by simp) rfl
  have start : brokenOffer.events.head?.bind LedgerEvent.prevHash = none := rfl
  rw [start, leads] at exits
  rcases run : accept Host.counting {} ⟨"edge-1", brokenOffer.events⟩ {} with
    ⟨error | receipt, later⟩
  · obtain ⟨-, added, copies, readable, written⟩ := exits.of_error run
    refine ⟨error, later, rfl, fun empty => ?_⟩
    have blank := @rows_of_file Host.counting [] later (by simp) empty
    have one := @rows_of_file Host.counting ([] ++ added) later
      (by simpa using readable) written
    have count := congrArg List.length (blank.symm.trans one)
    simp only [List.nil_append, List.length_map, ← copies.length_eq] at count
    cases count
  · have whole := (exits.of_ok run).1
    cases congrArg List.length whole

end Urp
