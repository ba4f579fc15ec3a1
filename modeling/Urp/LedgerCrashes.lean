import Urp.Python.JsonCuts
import Urp.Recording

/-!
# Ledger appends that a crash cuts short

An append writes its line in one go at the end of the file.  A crash in the
middle leaves a beginning of the line there, without a newline; the next line
would be written right behind it.
-/

namespace Urp

open Python Program

/-! ## Files with an unfinished line -/

/-- ASCII text is cut where its bytes are. -/
theorem utf8_take {text : List Char} (ascii : ∀ c ∈ text, c.toNat < 128)
    (cut : Nat) : (utf8 text).take cut = utf8 (text.take cut) := by
  induction text generalizing cut with
  | nil => simp [utf8]
  | cons c rest ih =>
      have tail := ih fun d member => ascii d (List.mem_cons_of_mem _ member)
      rw [utf8_cons_ascii (ascii c List.mem_cons_self)]
      cases cut with
      | zero => simp [utf8]
      | succ cut =>
          rw [List.take_succ_cons, List.take_succ_cons, tail,
            utf8_cons_ascii (ascii c List.mem_cons_self)]

theorem length_utf8_ascii {text : List Char}
    (ascii : ∀ c ∈ text, c.toNat < 128) : (utf8 text).length = text.length := by
  induction text with
  | nil => rfl
  | cons c rest ih =>
      rw [utf8_cons_ascii (ascii c List.mem_cons_self), List.length_cons,
        List.length_cons,
        ih fun d member => ascii d (List.mem_cons_of_mem _ member)]

theorem ascii_line (event : LedgerEvent) :
    ∀ c ∈ event.line ++ ['\n'], c.toNat < 128 := by
  intro c member
  rcases List.mem_append.mp member with inside | newline
  · have range := printable_ranges (event.printable_line c inside)
    omega
  · rw [List.mem_singleton.mp newline]
    decide

/-- No proper beginning of an event's line loads. -/
theorem loads_take_line {event : LedgerEvent} (valid : event.SchemaValid)
    {cut : Nat} (torn : cut < event.line.length) :
    Json.loads (event.line.take cut) = none := by
  have json := Value.isJson_sorted _ (LedgerEvent.isJson_toDict valid.details)
  unfold LedgerEvent.line Json.dumps at torn ⊢
  simp only [LedgerEvent.toDict, Value.sorted] at json torn ⊢
  exact Json.loads_take .spaced json torn

/-- Nor does an event's line with another event's behind it. -/
theorem loads_line_append {event : LedgerEvent} (valid : event.SchemaValid)
    (other : LedgerEvent) : Json.loads (event.line ++ other.line) = none := by
  have json := Value.isJson_sorted _ (LedgerEvent.isJson_toDict valid.details)
  obtain ⟨rest, head⟩ := other.line_head
  rw [head]
  unfold LedgerEvent.line Json.dumps
  simp only [LedgerEvent.toDict, Value.sorted] at json ⊢
  exact Json.loads_append .spaced json (by decide) rest

/-- A printable line that does not load makes the file unreadable. -/
theorem not_readUnlocked {host : Host} {events : List LedgerEvent}
    {line ending : List Char} (printable : Json.Printable line)
    (visible : hasText line = true) (broken : Json.loads line = none)
    (ends : ending = [] ∨ ending = ['\n']) {state later : LedgerState}
    (file : state.file = ledgerFile events ++ utf8 (line ++ ending))
    {rows : List LedgerEvent} :
    JSONLLedger.readUnlocked host state ≠ (.ok rows, later) := by
  intro run
  let text := ledgerText events ++ (line ++ ending)
  have noReturn : '\r' ∉ text := by
    intro member
    rcases List.mem_append.mp member with early | last
    · rcases mem_ledgerText early with inside | same
      · exact absurd inside (by decide)
      · exact absurd same (by decide)
    · rcases List.mem_append.mp last with inside | newline
      · exact absurd (printable _ inside) (by decide)
      · rcases ends with rfl | rfl
        · cases newline
        · exact absurd (List.mem_singleton.mp newline) (by decide)
  have decoded : decodeUtf8 state.file = some text := by
    rw [file, ledgerFile, ← utf8_append]
    exact decodeUtf8_utf8 _
  have newlines := universalNewlines_of_clean noReturn
  have clean : '\n' ∉ line := fun member =>
    absurd (printable _ member) (by decide)
  have listed : line ∈ (Lines.pieces '\n'
      (universalNewlines false text)).filter hasText := by
    rw [newlines, List.mem_filter]
    refine ⟨?_, visible⟩
    have pieces := @Lines.pieces_terminated_append Char _ '\n'
      (events.map LedgerEvent.line) (by
        intro other member
        obtain ⟨event, -, rfl⟩ := List.mem_map.mp member
        exact newline_not_mem_line event) (line ++ ending)
    rw [show text = Lines.terminated '\n' (events.map LedgerEvent.line) ++
      (line ++ ending) from rfl, pieces]
    apply List.mem_append_right
    rcases ends with rfl | rfl
    · rw [List.append_nil, Lines.pieces_clean clean]
      exact List.mem_cons_self
    · rw [Lines.pieces_line clean]
      exact List.mem_cons_self
  unfold JSONLLedger.readUnlocked at run
  rw [get_bind] at run
  simp only [decoded] at run
  obtain ⟨before, event, after, parsed⟩ := forEach_returns run listed
  obtain ⟨supply, raised, -⟩ := focus_eq_ok_iff.mp parsed
  unfold parseEvent at raised
  simp only [Option.bind_some, broken] at raised
  cases raised

/-! ## Crashes -/

/-- What an append adds to the file, whatever the file holds. -/
theorem ensures_append_file (host : Host) (session : Session)
    (event : LedgerEvent) (state : LedgerState) :
    Ensures (JSONLLedger.append host session event) state
      (fun appended later =>
        later.file = state.file ++ utf8 (appended.line ++ ['\n']))
      (fun _ _ => True) := by
  unfold JSONLLedger.append
  rw [ensures_bind, ensures_lift]
  refine ⟨fun _ _ => ?_, fun _ _ => trivial⟩
  rw [ensures_bind]
  apply (ensures_lastEventUnlocked host state).mono
  · rintro last later ⟨-, file⟩
    rw [ensures_bind, ensures_lift]
    refine ⟨fun _ _ => ?_, fun _ _ => trivial⟩
    rw [ensures_ite]
    constructor
    · exact fun _ => trivial
    · intro _
      rw [ensures_bind, ensures_modify, ← file]
      rfl
  · exact fun _ _ _ => trivial

/-- The append of the job stops when `cut` of its bytes are in the file. -/
def crashAppend (host : Host) (job : Session × LedgerEvent) (cut : Nat)
    (state : LedgerState) : LedgerState :=
  let after := (ledgerStep host state job).2
  { after with
    file := state.file ++ (after.file.drop state.file.length).take cut }

/-- How many bytes the append of the job writes. -/
def bytesAppended (host : Host) (job : Session × LedgerEvent)
    (state : LedgerState) : Nat :=
  (ledgerStep host state job).2.file.length - state.file.length

/-- Later appends succeed, the chain verifies and both the events of before and
the later ones are read back in their order. -/
def GoesOn (host : Host) (events : List LedgerEvent) (state : LedgerState) :
    Prop :=
  ∀ later : List (Session × LedgerEvent), (∀ job ∈ later, Appendable job) →
    ∃ appended : List LedgerEvent,
      (Run.visits (ledgerStep host) state later).map Run.Visit.output =
        appended.map .ok ∧
      let final := Run.final (ledgerStep host) state later
      (JSONLLedger.verifyChain host final).1 = .ok true ∧
      ∃ rows, (JSONLLedger.read host {} final).1 = .ok rows ∧
        ∃ kept, kept.Sublist rows ∧ List.Forall₂
          (fun row event => row.pyEq event = true) kept (events ++ appended)

/-- The ledger that the appends of `before` leave recovers from a crash in the
append of the job. -/
def Recovers (host : Host) (supply : Supply)
    (before : List (Session × LedgerEvent)) (job : Session × LedgerEvent)
    (cut : Nat) : Prop :=
  ∃ events : List LedgerEvent,
    (Run.visits (ledgerStep host) ⟨[], supply⟩ before).map Run.Visit.output =
      events.map .ok ∧
    GoesOn host events (crashAppend host job cut
      (Run.final (ledgerStep host) ⟨[], supply⟩ before))

section Recovery

variable {host : Host} {supply : Supply} {before : List (Session × LedgerEvent)}
  {job : Session × LedgerEvent} {cut : Nat}

/-- What the crash leaves behind the lines of the events. -/
theorem crashAppend_ledgerFile {events : List LedgerEvent}
    (readable : ∀ event ∈ events, event.Readable) (admitted : Appendable job) :
    let line := (job.2.withChainHash (lastHash events)).line ++ ['\n']
    bytesAppended host job ⟨ledgerFile events, supply⟩ = line.length ∧
      crashAppend host job cut ⟨ledgerFile events, supply⟩ =
        ⟨ledgerFile events ++ utf8 (line.take cut), supply⟩ := by
  obtain ⟨valid, passed⟩ := admitted
  have step := @append_ledgerFile host _ _ _ valid passed readable supply
  let chained := job.2.withChainHash (lastHash events)
  have ascii := ascii_line chained
  have after : (ledgerStep host ⟨ledgerFile events, supply⟩ job).2 =
      ⟨ledgerFile events ++ utf8 (chained.line ++ ['\n']), supply⟩ := by
    unfold ledgerStep
    rw [step, ledgerFile_append]
  constructor
  · unfold bytesAppended
    rw [after]
    change (ledgerFile events ++ utf8 (chained.line ++ ['\n'])).length -
      (ledgerFile events).length = _
    rw [List.length_append, length_utf8_ascii ascii, Nat.add_sub_cancel_left]
  · unfold crashAppend
    simp only [after, List.drop_left]
    rw [utf8_take ascii]

/-- A crash before the first byte is no crash. -/
theorem goesOn_ledgerFile {events : List LedgerEvent}
    (valid : ∀ event ∈ events, event.SchemaValid)
    (linked : Linked none events) :
    GoesOn host events ⟨ledgerFile events, supply⟩ := by
  intro later appendable
  have readable : ∀ event ∈ events, event.Readable :=
    fun event member => (valid event member).readable
  obtain ⟨final, outputs⟩ :=
    run_ledgerStep host supply appendable readable
  let chained := chainEvents (lastHash events) (later.map Prod.snd)
  have chainedValid : ∀ event ∈ events ++ chained, event.SchemaValid := by
    intro event member
    rcases List.mem_append.mp member with early | last
    · exact valid event early
    · refine schemaValid_chainEvents ?_ _ event last
      intro other listed
      obtain ⟨job, jobMember, rfl⟩ := List.mem_map.mp listed
      exact (appendable job jobMember).1
  have whole : Linked none (events ++ chained) :=
    linked_none_append.mpr ⟨linked, linked_chainEvents _ _⟩
  refine ⟨chained, outputs, ?_⟩
  dsimp only
  rw [final]
  obtain ⟨rows, read, equal⟩ := read_ledgerFile host supply chainedValid
  refine ⟨verifyChain_ledgerFile host supply
    (fun event member => (chainedValid event member).readable) whole,
    rows, read, rows, List.Sublist.refl rows, equal⟩

/-- A ledger that goes on can be read. -/
theorem GoesOn.reads {events : List LedgerEvent} {state : LedgerState}
    (goesOn : GoesOn host events state) {later : List (Session × LedgerEvent)}
    (appendable : ∀ job ∈ later, Appendable job) :
    ∃ rows last, JSONLLedger.readUnlocked host
      (Run.final (ledgerStep host) state later) = (.ok rows, last) := by
  obtain ⟨appended, -, -, rows, read, -⟩ := goesOn later appendable
  obtain ⟨unlocked, last, run, -⟩ := bind_eq_ok_iff.mp
    (Prod.ext read rfl : JSONLLedger.read host {} _ = (.ok rows, _))
  exact ⟨unlocked, last, run⟩

/-- An object that lost its end, or its newline, is not recovered from. -/
theorem not_goesOn {events earlier : List LedgerEvent} {event : LedgerEvent}
    (valid : event.SchemaValid) (admitted : Appendable job)
    (some : 0 < cut) (proper : cut ≤ event.line.length) {state : LedgerState}
    (file : state.file = ledgerFile events ++ utf8 (event.line.take cut)) :
    ¬ GoesOn host earlier state := by
  intro goesOn
  have printable : Json.Printable (event.line.take cut) := fun c member =>
    event.printable_line c (List.mem_of_mem_take member)
  have visible : hasText (event.line.take cut) = true := by
    obtain ⟨rest, same⟩ := event.line_head
    obtain ⟨less, rfl⟩ : ∃ less, cut = less + 1 := ⟨cut - 1, by omega⟩
    rw [same, List.take_succ_cons, hasText, List.any_cons]
    rfl
  rcases Nat.lt_or_eq_of_le proper with torn | whole
  · -- The object lost its end: already the next reading fails.
    have none : ∀ other ∈ ([] : List (Session × LedgerEvent)),
        Appendable other := by simp
    obtain ⟨rows, last, run⟩ := goesOn.reads none
    rw [← List.append_nil (event.line.take cut)] at file
    exact not_readUnlocked printable visible (loads_take_line valid torn)
      (.inl rfl) file run
  · -- It lost its newline: the next object is written on the same line.
    rw [whole, List.take_length] at file
    have later : ∀ other ∈ [job], Appendable other :=
      List.forall_mem_singleton.mpr admitted
    obtain ⟨rows, last, run⟩ := goesOn.reads later
    obtain ⟨appended, outputs, -⟩ := goesOn [job] later
    simp only [Run.final, Run.visits, Run.visit, List.map_cons] at run outputs
    cases appended with
    | nil => cases outputs
    | cons other rest =>
        have first := (List.cons.inj outputs).1
        have extended := (ensures_append_file host job.1 job.2 state).of_fst_ok
          first
        have glued : (ledgerStep host state job).2.file =
            ledgerFile events ++ utf8 ((event.line ++ other.line) ++ ['\n']) := by
          rw [List.append_assoc, utf8_append event.line, ← List.append_assoc,
            ← file]
          exact extended
        have printable : Json.Printable (event.line ++ other.line) :=
          Json.printable_append event.printable_line other.printable_line
        have visible : hasText (event.line ++ other.line) = true := by
          have inside := hasText_line event
          unfold hasText at inside ⊢
          rw [List.any_append, inside, Bool.true_or]
        exact not_readUnlocked printable visible (loads_line_append valid other)
          (.inr rfl) glued run

/-- The ledger that appends leave, and what the next one would write. -/
theorem ledger_of_appends (appendable : ∀ other ∈ before, Appendable other)
    (admitted : Appendable job) :
    ∃ events : List LedgerEvent, ∃ event : LedgerEvent,
      (∀ other ∈ events, other.SchemaValid) ∧ Linked none events ∧
      event.SchemaValid ∧
      (Run.visits (ledgerStep host) ⟨[], supply⟩ before).map
        Run.Visit.output = events.map .ok ∧
      bytesAppended host job (Run.final (ledgerStep host) ⟨[], supply⟩ before) =
        event.line.length + 1 ∧
      ∀ cut, crashAppend host job cut
          (Run.final (ledgerStep host) ⟨[], supply⟩ before) =
        ⟨ledgerFile events ++ utf8 ((event.line ++ ['\n']).take cut), supply⟩ := by
  have noneBefore : ∀ event ∈ ([] : List LedgerEvent), event.Readable := nofun
  obtain ⟨final, outputs⟩ :=
    run_ledgerStep host supply appendable noneBefore
  rw [ledgerFile_nil, List.nil_append] at final
  rw [ledgerFile_nil] at outputs
  let events := chainEvents (lastHash []) (before.map Prod.snd)
  have valid : ∀ event ∈ events, event.SchemaValid := by
    apply schemaValid_chainEvents
    intro event member
    obtain ⟨other, listed, rfl⟩ := List.mem_map.mp member
    exact (appendable other listed).1
  have readable : ∀ event ∈ events, event.Readable :=
    fun event member => (valid event member).readable
  refine ⟨events, job.2.withChainHash (lastHash events), valid,
    linked_chainEvents _ _, admitted.1.withChainHash _, outputs, ?_, ?_⟩
  · rw [final, (@crashAppend_ledgerFile host supply job 0 events readable
      admitted).1, List.length_append, List.length_singleton]
  · intro cut
    rw [final]
    exact (@crashAppend_ledgerFile host supply job cut events readable
      admitted).2

theorem one_lt_bytesAppended (appendable : ∀ other ∈ before, Appendable other)
    (admitted : Appendable job) :
    1 < bytesAppended host job
      (Run.final (ledgerStep host) ⟨[], supply⟩ before) := by
  obtain ⟨_, event, -, -, -, -, written, -⟩ :=
    @ledger_of_appends host supply before job appendable admitted
  obtain ⟨rest, head⟩ := event.line_head
  rw [written, head, List.length_cons]
  omega

/-- Any byte of the line is in the way. -/
theorem not_recovers (appendable : ∀ other ∈ before, Appendable other)
    (admitted : Appendable job) (some : 0 < cut)
    (proper : cut < bytesAppended host job
      (Run.final (ledgerStep host) ⟨[], supply⟩ before)) :
    ¬ Recovers host supply before job cut := by
  obtain ⟨events, event, -, -, valid, -, written, crashed⟩ :=
    @ledger_of_appends host supply before job appendable admitted
  rw [written] at proper
  have inside : cut ≤ event.line.length := Nat.le_of_lt_succ proper
  rintro ⟨earlier, -, goesOn⟩
  rw [crashed, List.take_append_of_le_length inside] at goesOn
  exact not_goesOn valid admitted some inside rfl goesOn

/-- The ledger recovers exactly from a crash that wrote nothing. -/
theorem recovers_iff (appendable : ∀ other ∈ before, Appendable other)
    (admitted : Appendable job)
    (proper : cut < bytesAppended host job
      (Run.final (ledgerStep host) ⟨[], supply⟩ before)) :
    Recovers host supply before job cut ↔ cut = 0 := by
  constructor
  · intro recovers
    by_contra nonzero
    exact not_recovers appendable admitted (Nat.pos_of_ne_zero nonzero) proper
      recovers
  · rintro rfl
    obtain ⟨events, event, valid, linked, -, outputs, -, crashed⟩ :=
      @ledger_of_appends host supply before job appendable admitted
    refine ⟨events, outputs, ?_⟩
    have nothing : utf8 ((event.line ++ ['\n']).take 0) = [] := rfl
    rw [crashed, nothing, List.append_nil]
    exact goesOn_ledgerFile valid linked

end Recovery

/-! ## A crash after the first byte -/

theorem appendable_sample :
    Appendable ({}, sampleEvent "acme" "evt_1") ∧
      Appendable ({}, sampleEvent "acme" "evt_2") :=
  ⟨⟨⟨by decide, by decide, by decide, by decide, by decide⟩, rfl⟩,
    ⟨⟨by decide, by decide, by decide, by decide, by decide⟩, rfl⟩⟩

theorem openBrace_not_recovers :
    ¬ Recovers Host.counting {} [({}, sampleEvent "acme" "evt_1")]
      ({}, sampleEvent "acme" "evt_2") 1 := by
  have appendable : ∀ other ∈ [(({} : Session), sampleEvent "acme" "evt_1")],
      Appendable other :=
    List.forall_mem_singleton.mpr appendable_sample.1
  exact not_recovers appendable appendable_sample.2 Nat.one_pos
    (one_lt_bytesAppended appendable appendable_sample.2)

theorem recovers_iff_openBrace :
    Recovers Host.counting {} [({}, sampleEvent "acme" "evt_1")]
      ({}, sampleEvent "acme" "evt_2") 1 ↔ 1 = 0 := by
  have appendable : ∀ other ∈ [(({} : Session), sampleEvent "acme" "evt_1")],
      Appendable other :=
    List.forall_mem_singleton.mpr appendable_sample.1
  exact recovers_iff appendable appendable_sample.2
    (one_lt_bytesAppended appendable appendable_sample.2)

end Urp
