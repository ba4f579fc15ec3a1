import Urp.MultipartSteps

/-!
# Runs of multipart calls

Every interleaving of multipart calls takes every upload through the protocol
of `Assembly`, and every event of an upload is the turn of one call.
-/

namespace Urp

open Python Program Assembly LocalS3Adapter

namespace Multipart

variable {host : Host} {gateway : Gateway} {actions : List (Turns.Action MultipartCall)}

/-- A state directory without uploads. -/
def startOf (gateway : Gateway) : Turns.System MultipartState RunningCall :=
  ⟨{ gateway }, []⟩

/-- The visits of a run from a state directory without uploads. -/
def runVisits (host : Host) (gateway : Gateway)
    (actions : List (Turns.Action MultipartCall)) : List MultipartVisit :=
  Run.visits (multipartStep host) (startOf gateway) actions

theorem follows_start (host : Host) (gateway : Gateway) :
    Follows host [] (startOf gateway) fun _ => .absent where
  leads _ := .start
  shows _ := rfl
  stands _ _ found := by cases found
  drawn _ living := absurd rfl living
  making _ _ _ found := by cases found
  apart _ _ _ _ _ found := by cases found

/-- Every run takes every upload through the protocol. -/
theorem follows_run (fresh : Function.Injective host.uuid4) (gateway : Gateway)
    (actions : List (Turns.Action MultipartCall)) :
    ∃ lives, Follows host (runVisits host gateway actions)
      (Run.final (multipartStep host) (startOf gateway) actions) lives := by
  apply @Turns.induction _ _ _ _ _ fun history system =>
    ∃ lives, Follows host history system lives
  · exact ⟨_, follows_start host gateway⟩
  · intro history system call ⟨lives, follows⟩
    exact ⟨lives, (follows.begin call).quiet rfl⟩
  · intro history system index ⟨lives, follows⟩ missing
    refine ⟨lives, follows.quiet ?_⟩
    simp only [Run.visit, Turns.step, missing]
  · intro history system index running ⟨lives, follows⟩ present
    obtain ⟨next, advances⟩ := follow_advanceStage follows.shows fresh
      follows.drawn (follows.stands index running present)
    refine ⟨next, follows.turn present advances ?_⟩
    simp only [Run.visit, Turns.step_turn present]
    rfl

/-! ## Visits of an upload's events -/

/-- The parts of an upload that calls returned as stored, in order. -/
def acknowledged (uploadId : String) (history : List MultipartVisit) :
    List (Nat × Bytes) :=
  accepted (uploadEvents uploadId history)

/-- An event of the history is the event of a visit. -/
theorem uploadEvents_split {uploadId : String} {history : List MultipartVisit}
    {early late : List UploadEvent} {event : UploadEvent}
    (split : uploadEvents uploadId history = early ++ event :: late) :
    ∃ past v rest, history = past ++ v :: rest ∧
      uploadEvents uploadId past = early ∧ uploadEvent uploadId v = some event ∧
      uploadEvents uploadId rest = late := by
  obtain ⟨first, second, rfl, before, after⟩ :=
    List.filterMap_eq_append_iff.mp split
  obtain ⟨quiet, v, rest, rfl, silent, happened, others⟩ :=
    List.filterMap_eq_cons_iff.mp after
  refine ⟨first ++ quiet, v, rest, by simp, ?_, happened, others⟩
  rw [uploadEvents, List.filterMap_append, before,
    List.filterMap_eq_nil_iff.mpr silent, List.append_nil]

theorem turned_of_event {v : MultipartVisit} {uploadId : String}
    {event : UploadEvent} (happened : uploadEvent uploadId v = some event) :
    ∃ turned, v.output = some turned ∧
      eventOf turned.index turned.before.call turned.before.stage
        turned.after.stage = some (uploadId, event) := by
  obtain ⟨⟨concerned, occurred⟩, found, same⟩ :=
    Option.bind_eq_some_iff.mp happened
  obtain ⟨turned, output, happens⟩ := Option.bind_eq_some_iff.mp found
  split at same
  · next equal =>
      cases same
      cases equal
      exact ⟨turned, output, happens⟩
  · cases same

/-- A visit of a run is a step of the machine from the state that its past
leads to. -/
theorem visit_of_split {past rest : List MultipartVisit} {v : MultipartVisit}
    (split : runVisits host gateway actions = past ++ v :: rest) :
    ∃ early late, actions = early ++ v.input :: late ∧
      past = runVisits host gateway early ∧
      v = Run.visit (multipartStep host)
        (Run.final (multipartStep host) (startOf gateway) early) v.input :=
  Run.visits_split split

end Multipart

end Urp
