import Urp.LedgerCrashes

/-!
# The two ledger readers

The forward reader goes over the lines that text mode finds, the backward
reader over the bytes between newlines.  They differ where text mode ends a
line at a carriage return, and that matters where it stands inside the text of
an event.
-/

namespace Urp

open Python Program

/-! ## Lines of events -/

/-- The line of an event: its JSON text, with or without white space around
it. -/
structure EventLine (host : Host) (line : List Char) (event : LedgerEvent) :
    Prop where
  single : '\n' ∉ line
  parsed : parseEvent host (some (Json.trim line)) = ret event

/-- Both readers of the file succeed, the backward one with the last of the
forward one's events, and with none exactly when the file has no event. -/
def ReadersAgree (host : Host) (lines : List (List Char))
    (state : LedgerState) : Prop :=
  ∃ events last,
    (JSONLLedger.readUnlocked host state).1 = .ok events ∧
      (JSONLLedger.lastEventUnlocked host state).1 = .ok last ∧
      last = events.getLast? ∧ (last = none ↔ lines = [])

namespace EventLine

variable {host : Host} {line before ending : List Char} {event : LedgerEvent}

theorem object (written : EventLine host line event) :
    ∃ data, Json.loads (Json.trim line) = some (.dict data) ∧
      LedgerEvent.fromDict host data = ret event := by
  have parsed := written.parsed
  unfold parseEvent at parsed
  rw [Option.bind_some] at parsed
  split at parsed
  · rename_i data loaded
    exact ⟨data, loaded, parsed⟩
  · cases congrFun parsed {}
  · cases congrFun parsed {}

theorem brace (written : EventLine host line event) :
    ∃ body, Json.trim line = '{' :: body := by
  obtain ⟨data, loaded, -⟩ := written.object
  exact Json.trim_eq_brace loaded

/-- Other white space around the text gives the same event. -/
theorem parseEvent_surrounded (written : EventLine host line event)
    (early : ∀ c ∈ before, Json.isBlank c = true)
    (late : ∀ c ∈ ending, Json.isBlank c = true) :
    parseEvent host (some (before ++ Json.trim line ++ ending)) = ret event := by
  obtain ⟨data, loaded, meant⟩ := written.object
  obtain ⟨body, opened⟩ := written.brace
  rw [opened] at loaded ⊢
  unfold parseEvent
  rw [Option.bind_some, Json.loads_surrounded loaded early late]
  exact meant

end EventLine

/-! ## Text mode -/

/-- Every carriage return as a newline of its own. -/
def breakReturns (text : List Char) : List Char :=
  text.map fun c => if c = '\r' then '\n' else c

theorem isSpace_of_isBlank {c : Char} (blank : Json.isBlank c = true) :
    isSpace c = true := by
  simp only [Json.isBlank, Bool.or_eq_true, decide_eq_true_eq] at blank
  rcases blank with ((rfl | rfl) | rfl) | rfl <;> decide

theorem hasText_of_blank {text : List Char}
    (blank : ∀ c ∈ text, Json.isBlank c = true) : hasText text = false := by
  simp only [hasText, List.any_eq_false, Bool.not_eq_true', Bool.not_eq_false]
  exact fun c member => isSpace_of_isBlank (blank c member)

/-- The same first piece and, but for blank ones, the same later pieces. -/
def SameText (these those : List (List Char)) : Prop :=
  ∃ first early late, these = first :: early ∧ those = first :: late ∧
    early.filter hasText = late.filter hasText

theorem SameText.visible {these those : List (List Char)}
    (same : SameText these those) :
    these.filter hasText = those.filter hasText := by
  obtain ⟨first, early, late, rfl, rfl, rest⟩ := same
  rw [List.filter_cons, List.filter_cons, rest]

/-- A newline behind a carriage return would only add an empty piece. -/
theorem pieces_universalNewlines (text : List Char) :
    SameText (Lines.pieces '\n' (universalNewlines false text))
        (Lines.pieces '\n' (breakReturns text)) ∧
      (Lines.pieces '\n' (universalNewlines true text)).filter hasText =
        (Lines.pieces '\n' (breakReturns text)).filter hasText := by
  induction text with
  | nil => exact ⟨⟨[], [], [], rfl, rfl, rfl⟩, rfl⟩
  | cons c rest ih =>
      obtain ⟨plain, returned⟩ := ih
      by_cases isReturn : c = '\r'
      · subst isReturn
        constructor
        · exact ⟨[], _, _, rfl, rfl, returned⟩
        · exact returned
      · by_cases isNewline : c = '\n'
        · subst isNewline
          constructor
          · exact ⟨[], _, _, rfl, rfl, plain.visible⟩
          · exact plain.visible
        · have other : ∀ afterReturn, universalNewlines afterReturn (c :: rest) =
              c :: universalNewlines false rest := by
            intro afterReturn
            rw [universalNewlines, if_neg isReturn, if_neg (by tauto)]
          have broken : breakReturns (c :: rest) = c :: breakReturns rest := by
            simp [breakReturns, isReturn]
          obtain ⟨first, early, late, these, those, same⟩ := plain
          have longer : SameText
              (Lines.pieces '\n' (c :: universalNewlines false rest))
              (Lines.pieces '\n' (c :: breakReturns rest)) := by
            rw [Lines.pieces, Lines.pieces, if_neg isNewline, these,
              if_neg isNewline, those]
            exact ⟨c :: first, early, late, rfl, rfl, same⟩
          rw [other, other, broken]
          exact ⟨longer, longer.visible⟩

theorem pieces_breakReturns {line : List Char} (single : '\n' ∉ line) :
    Lines.pieces '\n' (breakReturns line) = Lines.pieces '\r' line := by
  induction line with
  | nil => rfl
  | cons c line ih =>
      simp only [List.mem_cons, not_or] at single
      have tail := ih single.2
      by_cases isReturn : c = '\r'
      · subst isReturn
        simpa [breakReturns, Lines.pieces] using tail
      · have broken : breakReturns (c :: line) = c :: breakReturns line := by
          simp [breakReturns, isReturn]
        rw [broken, Lines.pieces, Lines.pieces, if_neg (Ne.symm single.1),
          if_neg isReturn, tail]

theorem visible_breakReturns {lines : List (List Char)}
    (single : ∀ line ∈ lines, '\n' ∉ line) :
    (Lines.pieces '\n' (breakReturns (Lines.terminated '\n' lines))).filter
        hasText =
      lines.flatMap fun line => (Lines.pieces '\r' line).filter hasText := by
  induction lines with
  | nil => rfl
  | cons line rest ih =>
      have broken : breakReturns (Lines.terminated '\n' (line :: rest)) =
          breakReturns line ++
            '\n' :: breakReturns (Lines.terminated '\n' rest) := by
        simp [breakReturns, Lines.terminated]
      rw [broken, Lines.pieces_append,
        pieces_breakReturns (single line List.mem_cons_self),
        List.filter_append, List.flatMap_cons,
        ih fun other member => single other (List.mem_cons_of_mem _ member)]

/-- The lines that the forward reader parses. -/
theorem visible_terminated {lines : List (List Char)}
    (single : ∀ line ∈ lines, '\n' ∉ line) :
    (Lines.pieces '\n' (universalNewlines false
        (Lines.terminated '\n' lines))).filter hasText =
      lines.flatMap fun line => (Lines.pieces '\r' line).filter hasText := by
  rw [(pieces_universalNewlines _).1.visible, visible_breakReturns single]

/-! ## The visible pieces of a line -/

section Pieces

variable {before ending late : List Char}

/-- Pieces of white space are left out. -/
theorem visible_of_blank (blank : ∀ c ∈ before, Json.isBlank c = true) :
    (Lines.pieces '\r' before).filter hasText = [] := by
  rw [List.filter_eq_nil_iff]
  intro piece listed
  have none := hasText_of_blank fun c member =>
    blank c (Lines.mem_of_mem_pieces listed member)
  simp [none]

/-- Of the white space before a text, its last piece remains. -/
theorem visible_blank_append (blank : ∀ c ∈ before, Json.isBlank c = true)
    (late : List Char) :
    ∃ left, (∀ c ∈ left, Json.isBlank c = true) ∧ '\r' ∉ left ∧
      (Lines.pieces '\r' (before ++ late)).filter hasText =
        (Lines.pieces '\r' (left ++ late)).filter hasText := by
  by_cases member : '\r' ∈ before
  · obtain ⟨early, left, rfl, clean⟩ := Lines.exists_last member
    have early_blank : ∀ c ∈ early, Json.isBlank c = true := fun c inside =>
      blank c (List.mem_append_left _ inside)
    have left_blank : ∀ c ∈ left, Json.isBlank c = true := fun c inside =>
      blank c (List.mem_append_right _ (List.mem_cons_of_mem _ inside))
    refine ⟨left, left_blank, clean, ?_⟩
    rw [List.append_assoc, List.cons_append, Lines.pieces_append,
      List.filter_append, visible_of_blank early_blank, List.nil_append]
  · exact ⟨before, blank, member, rfl⟩

/-- Of the white space behind a text, its first piece remains. -/
theorem visible_append_blank {text : List Char} (clean : '\r' ∉ text)
    (visible : hasText text = true)
    (blank : ∀ c ∈ ending, Json.isBlank c = true) :
    ∃ right, (∀ c ∈ right, Json.isBlank c = true) ∧
      (Lines.pieces '\r' (text ++ ending)).filter hasText =
        [text ++ right] := by
  have kept : ∀ right, hasText (text ++ right) = true := by
    intro right
    unfold hasText at visible ⊢
    rw [List.any_append, visible, Bool.true_or]
  by_cases member : '\r' ∈ ending
  · obtain ⟨right, rest, rfl, unbroken⟩ := List.eq_append_cons_of_mem member
    have rest_blank : ∀ c ∈ rest, Json.isBlank c = true := fun c inside =>
      blank c (List.mem_append_right _ (List.mem_cons_of_mem _ inside))
    refine ⟨right, fun c inside => blank c (List.mem_append_left _ inside), ?_⟩
    have whole : '\r' ∉ text ++ right := by simp [clean, unbroken]
    rw [← List.append_assoc, Lines.pieces_append, List.filter_append,
      visible_of_blank rest_blank, Lines.pieces_clean whole]
    simp [kept right]
  · refine ⟨ending, blank, ?_⟩
    have whole : '\r' ∉ text ++ ending := by simp [clean, member]
    rw [Lines.pieces_clean whole]
    simp [kept ending]

end Pieces

namespace EventLine

variable {host : Host} {line : List Char} {event : LedgerEvent}

/-- Without a carriage return in its text, the line is parsed as the event. -/
theorem visible (written : EventLine host line event)
    (clean : '\r' ∉ Json.trim line) :
    ∃ piece, (Lines.pieces '\r' line).filter hasText = [piece] ∧
      parseEvent host (some piece) = ret event := by
  obtain ⟨before, ending, whole, early, late⟩ := Json.exists_trim line
  obtain ⟨body, opened⟩ := written.brace
  obtain ⟨left, left_blank, unbroken, first⟩ :=
    visible_blank_append early (Json.trim line ++ ending)
  have clean : '\r' ∉ left ++ Json.trim line := by simp [unbroken, clean]
  have shown : hasText (left ++ Json.trim line) = true := by
    rw [opened, hasText, List.any_append, List.any_cons]
    simp [show isSpace '{' = false by decide]
  obtain ⟨right, right_blank, last⟩ := visible_append_blank clean shown late
  refine ⟨left ++ Json.trim line ++ right, ?_,
    written.parseEvent_surrounded left_blank right_blank⟩
  rw [← last, List.append_assoc, ← first, ← List.append_assoc, ← whole]

/-- A carriage return in its text cuts the text off. -/
theorem torn (written : EventLine host line event)
    (returned : '\r' ∈ Json.trim line) :
    ∃ piece ∈ (Lines.pieces '\r' line).filter hasText,
      Json.loads piece = none := by
  obtain ⟨before, ending, whole, early, -⟩ := Json.exists_trim line
  obtain ⟨body, opened⟩ := written.brace
  obtain ⟨data, loaded, -⟩ := written.object
  obtain ⟨start, rest, split, clean⟩ := List.eq_append_cons_of_mem returned
  obtain ⟨left, left_blank, unbroken, first⟩ :=
    visible_blank_append early (Json.trim line ++ ending)
  -- The text begins with its brace, so something of it stands before the cut.
  obtain ⟨text, rfl⟩ : ∃ text, start = '{' :: text := by
    cases start with
    | nil =>
        rw [opened, List.nil_append] at split
        cases split
    | cons c text =>
        rw [opened, List.cons_append] at split
        exact ⟨text, by rw [(List.cons.inj split).1]⟩
  refine ⟨left ++ '{' :: text, ?_, ?_⟩
  · rw [whole, List.append_assoc, first, List.mem_filter]
    constructor
    · have cut : left ++ (Json.trim line ++ ending) =
          (left ++ '{' :: text) ++ '\r' :: (rest ++ ending) := by
        rw [split]
        simp
      rw [cut, Lines.pieces_append, Lines.pieces_clean]
      · exact List.mem_cons_self
      · simp [unbroken, clean]
    · rw [hasText, List.any_append, List.any_cons]
      simp [show isSpace '{' = false by decide]
  · have some : Json.trim line ≠ [] := by simp [opened]
    have last := Json.getLast_trim some
    simp only [split] at last
    rw [List.getLast_append_of_ne_nil _ (List.cons_ne_nil _ _)] at last
    rw [split] at loaded
    exact Json.loads_cut loaded left_blank (List.getLast_mem _) last

end EventLine

/-! ## Written lines -/

namespace LedgerEvent

theorem line_braces (event : LedgerEvent) :
    ∃ body, event.line = '{' :: body ++ ['}'] := by
  unfold line Json.dumps
  simp only [toDict, Value.sorted, Json.render]
  obtain ⟨body, same⟩ := Json.renderEntries_getLast .spaced
    ((Value.sortedEntries event.fields).insertionSort fun p q => p.1 ≤ q.1)
  exact ⟨body, by rw [same, List.cons_append]⟩

theorem trim_line (event : LedgerEvent) : Json.trim event.line = event.line := by
  obtain ⟨body, same⟩ := event.line_braces
  rw [same]
  exact Json.trim_visible (by decide) (by decide) body

/-- The event's line with a carriage return behind the opening brace. -/
def returnedLine (event : LedgerEvent) : List Char :=
  '{' :: '\r' :: event.line.tail

theorem trim_returnedLine (event : LedgerEvent) :
    Json.trim event.returnedLine = event.returnedLine := by
  obtain ⟨body, same⟩ := event.line_braces
  rw [returnedLine, same]
  exact Json.trim_visible (by decide) (by decide) ('\r' :: body)

end LedgerEvent

section Written

variable (host : Host) {event : LedgerEvent}

/-- An append writes lines of events, without carriage returns. -/
theorem eventLine_line (readable : event.Readable) :
    EventLine host event.line event.canonical := by
  refine ⟨newline_not_mem_line event, ?_⟩
  rw [event.trim_line]
  exact LedgerEvent.parseEvent_line host readable

theorem return_not_mem_line (event : LedgerEvent) :
    '\r' ∉ Json.trim event.line := by
  rw [event.trim_line]
  intro member
  exact absurd (event.printable_line _ member) (by decide)

theorem eventLine_returnedLine (readable : event.Readable) :
    EventLine host event.returnedLine event.canonical := by
  have written := LedgerEvent.parseEvent_line host readable
  obtain ⟨data, loaded, -⟩ := (eventLine_line host readable).object
  rw [event.trim_line] at loaded
  constructor
  · intro member
    simp only [LedgerEvent.returnedLine, List.mem_cons] at member
    rcases member with same | same | inside
    · exact absurd same (by decide)
    · exact absurd same (by decide)
    · exact newline_not_mem_line event (List.mem_of_mem_tail inside)
  · rw [event.trim_returnedLine]
    have returned : Json.loads event.returnedLine = some (.dict data) := by
      obtain ⟨rest, same⟩ := event.line_head
      rw [same] at loaded
      rw [LedgerEvent.returnedLine, same]
      exact Json.loads_brace_blank (by decide) loaded
    unfold parseEvent at written ⊢
    rw [Option.bind_some] at written ⊢
    rw [loaded] at written
    rw [returned]
    exact written

end Written

theorem readable_sampleEvent (tenant eventId : String) (given : eventId ≠ "") :
    (sampleEvent tenant eventId).Readable :=
  ⟨given, (by decide : "2024-01-01T00:00:00+00:00" ≠ ""), rfl⟩

/-! ## Reading forwards -/

section Forwards

variable {host : Host} {supply : Supply} {lines : List (List Char)}
  {events : List LedgerEvent}

theorem exists_event (written : List.Forall₂ (EventLine host) lines events)
    {line : List Char} (member : line ∈ lines) :
    ∃ event, EventLine host line event := by
  induction written with
  | nil => cases member
  | cons first rest ih =>
      rcases List.mem_cons.mp member with rfl | later
      · exact ⟨_, first⟩
      · exact ih later

theorem single_lines (written : List.Forall₂ (EventLine host) lines events) :
    ∀ line ∈ lines, '\n' ∉ line := by
  intro line member
  obtain ⟨event, own⟩ := exists_event written member
  exact own.single

/-- The forward reader goes over the visible pieces of the lines. -/
theorem readUnlocked_lines
    (written : List.Forall₂ (EventLine host) lines events) :
    JSONLLedger.readUnlocked host
        ⟨utf8 (Lines.terminated '\n' lines), supply⟩ =
      forEach (lines.flatMap fun line =>
          (Lines.pieces '\r' line).filter hasText)
        (fun line => focus LedgerState.supplyLens (parseEvent host (some line)))
        ⟨utf8 (Lines.terminated '\n' lines), supply⟩ := by
  unfold JSONLLedger.readUnlocked
  rw [get_bind]
  simp only [decodeUtf8_utf8, visible_terminated (single_lines written)]

theorem forEach_visible
    (written : List.Forall₂ (EventLine host) lines events)
    (clean : ∀ line ∈ lines, '\r' ∉ Json.trim line) :
    forEach (lines.flatMap fun line => (Lines.pieces '\r' line).filter hasText)
        (fun line => focus LedgerState.supplyLens
          (parseEvent host (some line))) = ret events := by
  induction written with
  | nil => rfl
  | cons first rest ih =>
      obtain ⟨piece, visible, parsed⟩ := first.visible (clean _ List.mem_cons_self)
      rw [List.flatMap_cons, visible, List.singleton_append, forEach, parsed,
        focus_ret_event,
        ih fun line member => clean line (List.mem_cons_of_mem _ member)]
      rfl

/-- The forward reader returns the events when no text has a carriage
return, and fails otherwise. -/
theorem readUnlocked_clean
    (written : List.Forall₂ (EventLine host) lines events)
    (clean : ∀ line ∈ lines, '\r' ∉ Json.trim line) :
    (JSONLLedger.readUnlocked host
      ⟨utf8 (Lines.terminated '\n' lines), supply⟩).1 = .ok events := by
  rw [readUnlocked_lines written, forEach_visible written clean]
  rfl

theorem readUnlocked_torn
    (written : List.Forall₂ (EventLine host) lines events)
    {line : List Char} (member : line ∈ lines)
    (returned : '\r' ∈ Json.trim line) (rows : List LedgerEvent) :
    (JSONLLedger.readUnlocked host
      ⟨utf8 (Lines.terminated '\n' lines), supply⟩).1 ≠ .ok rows := by
  intro read
  rw [readUnlocked_lines written] at read
  obtain ⟨event, own⟩ := exists_event written member
  obtain ⟨piece, listed, broken⟩ := own.torn returned
  obtain ⟨state, parsed, later, run⟩ := forEach_returns (Prod.ext read rfl)
    (List.mem_flatMap.mpr ⟨line, member, listed⟩)
  obtain ⟨rest, raised, -⟩ := focus_eq_ok_iff.mp run
  unfold parseEvent at raised
  simp only [Option.bind_some, broken] at raised
  cases raised

end Forwards

/-! ## Reading backwards -/

/-- A character of several bytes has no ASCII byte. -/
theorem toNat_of_mem_encodeChar {c : Char} {byte : UInt8}
    (member : byte ∈ String.utf8EncodeChar c) :
    byte.toNat = c.toNat ∨ 128 ≤ byte.toNat := by
  have small : ∀ n : Nat, n < 256 → (UInt8.ofNat n).toNat = n := by
    intro n small
    rw [UInt8.toNat_ofNat']
    omega
  change byte.toNat = c.val.toNat ∨ _
  unfold String.utf8EncodeChar at member
  generalize c.val.toNat = v at member ⊢
  dsimp only at member
  split at member
  · rw [List.mem_singleton.mp member]
    exact .inl (small v (by omega))
  · right
    split at member
    · simp only [List.mem_cons, List.not_mem_nil, or_false] at member
      rcases member with rfl | rfl <;> rw [small _ (by omega)] <;> omega
    · split at member <;>
        simp only [List.mem_cons, List.not_mem_nil, or_false] at member
      · rcases member with rfl | rfl | rfl <;> rw [small _ (by omega)] <;> omega
      · rcases member with rfl | rfl | rfl | rfl <;>
          rw [small _ (by omega)] <;> omega

theorem mem_of_mem_utf8 {text : List Char} {byte : UInt8}
    (ascii : byte.toNat < 128) (member : byte ∈ utf8 text) :
    Char.ofNat byte.toNat ∈ text := by
  obtain ⟨c, listed, inside⟩ := List.mem_flatMap.mp member
  rcases toNat_of_mem_encodeChar inside with same | high
  · rw [same, Char.ofNat_toNat]
    exact listed
  · omega

/-- The characters of the bytes that `rstrip` takes off the end. -/
def endsLine (c : Char) : Bool := c = '\r' || c = '\n'

theorem isLineEnd_encodeChar {c : Char} (other : endsLine c = false) :
    ∀ byte ∈ utf8 [c], JSONLLedger.isLineEnd byte = false := by
  intro byte member
  simp only [endsLine, Bool.or_eq_false_iff, decide_eq_false_iff_not] at other
  rw [JSONLLedger.isLineEnd, Bool.or_eq_false_iff, decide_eq_false_iff_not,
    decide_eq_false_iff_not]
  constructor
  · rintro rfl
    exact other.1 (List.mem_singleton.mp (mem_of_mem_utf8 (by decide) member)).symm
  · rintro rfl
    exact other.2 (List.mem_singleton.mp (mem_of_mem_utf8 (by decide) member)).symm

/-- Stripping the bytes strips the text. -/
theorem utf8_rdropWhile (text : List Char) :
    (utf8 text).rdropWhile JSONLLedger.isLineEnd =
      utf8 (text.rdropWhile endsLine) := by
  induction text using List.reverseRecOn with
  | nil => rfl
  | append_singleton text c ih =>
      cases stripped : endsLine c with
      | true =>
          have byte : ∃ byte, utf8 [c] = [byte] ∧
              JSONLLedger.isLineEnd byte = true := by
            simp only [endsLine, Bool.or_eq_true, decide_eq_true_eq] at stripped
            rcases stripped with rfl | rfl
            · exact ⟨13, by decide, by decide⟩
            · exact ⟨10, by decide, by decide⟩
          obtain ⟨byte, alone, isEnd⟩ := byte
          rw [utf8_append, alone, List.rdropWhile_concat_pos _ _ _ isEnd, ih,
            List.rdropWhile_concat_pos _ _ _ stripped]
      | false =>
          have kept := isLineEnd_encodeChar stripped
          have some : utf8 [c] ≠ [] := by
            rw [utf8, List.flatMap_singleton]
            exact String.utf8EncodeChar_ne_nil
          rw [List.rdropWhile_concat_neg _ _ _ (by simp [stripped]),
            List.rdropWhile_eq_self_iff]
          intro whole
          simp only [utf8_append, List.getLast_append_of_ne_nil _ some,
            kept _ (List.getLast_mem some)]
          decide

/-- Only white space is stripped off a line's end. -/
theorem rdropWhile_surrounded {text ending : List Char} (some : text ≠ [])
    (visible : Json.isBlank (text.getLast some) = false)
    (blank : ∀ c ∈ ending, Json.isBlank c = true) :
    ∃ left, (text ++ ending).rdropWhile endsLine = text ++ left ∧
      ∀ c ∈ left, Json.isBlank c = true := by
  induction ending using List.reverseRecOn with
  | nil =>
      refine ⟨[], ?_, by simp⟩
      rw [List.append_nil, List.rdropWhile_eq_self_iff]
      intro whole isEnd
      simp only [endsLine, Bool.or_eq_true, decide_eq_true_eq] at isEnd
      rcases isEnd with same | same <;> rw [same] at visible <;>
        exact absurd visible (by decide)
  | append_singleton ending c ih =>
      have early : ∀ d ∈ ending, Json.isBlank d = true := fun d member =>
        blank d (List.mem_append_left _ member)
      obtain ⟨left, stripped, left_blank⟩ := ih early
      rw [← List.append_assoc]
      cases isEnd : endsLine c with
      | true =>
          refine ⟨left, ?_, left_blank⟩
          rw [List.rdropWhile_concat_pos _ _ _ isEnd, stripped]
      | false =>
          refine ⟨ending ++ [c], ?_, blank⟩
          rw [List.rdropWhile_concat_neg _ _ _ (by simp [isEnd]),
            List.append_assoc]

section Backwards

variable {host : Host} {supply : Supply} {lines : List (List Char)}
  {line : List Char} {events : List LedgerEvent} {event : LedgerEvent}

/-- The line that the backward reader finds is not empty and is parsed as the
event. -/
theorem EventLine.stripped (written : EventLine host line event) :
    line.rdropWhile endsLine ≠ [] ∧
      parseEvent host (some (line.rdropWhile endsLine)) = ret event := by
  obtain ⟨before, ending, whole, early, late⟩ := Json.exists_trim line
  obtain ⟨body, opened⟩ := written.brace
  have some : Json.trim line ≠ [] := by simp [opened]
  have some' : before ++ Json.trim line ≠ [] := by simp [some]
  have visible : Json.isBlank ((before ++ Json.trim line).getLast some') =
      false := by
    rw [List.getLast_append_of_ne_nil _ some]
    exact Json.getLast_trim some
  obtain ⟨left, stripped, left_blank⟩ :=
    rdropWhile_surrounded some' visible late
  rw [← whole] at stripped
  rw [stripped]
  exact ⟨by simp [some], written.parseEvent_surrounded early left_blank⟩

theorem finalLine_lines (written : EventLine host line event)
    (earlier : List (List Char)) :
    Lines.finalLine JSONLLedger.isLineEnd 10
        (utf8 (Lines.terminated '\n' (earlier ++ [line]))) =
      some (utf8 (line.rdropWhile endsLine)) := by
  have clean : 10 ∉ utf8 line := fun member =>
    written.single (mem_of_mem_utf8 (by decide) member)
  have kept : (utf8 line).rdropWhile JSONLLedger.isLineEnd ≠ [] := by
    rw [utf8_rdropWhile]
    intro empty
    exact written.stripped.1 (utf8_injective empty)
  rw [utf8_terminated, List.map_append, ← utf8_rdropWhile]
  exact Lines.finalLine_terminated (by decide) clean kept

/-- The backward reader ends and returns the last line's event, wherever the
blocks begin. -/
theorem lastEventUnlocked_lines
    (written : List.Forall₂ (EventLine host) lines events) :
    (JSONLLedger.lastEventUnlocked host
      ⟨utf8 (Lines.terminated '\n' lines), supply⟩).1 =
        .ok events.getLast? := by
  rcases lines.eq_nil_or_concat' with rfl | ⟨earlier, line, rfl⟩
  · cases written
    rfl
  · rcases events.eq_nil_or_concat' with rfl | ⟨before, event, rfl⟩
    · exact absurd written.length_eq (by simp)
    · have last : EventLine host line event := by
        rw [← List.forall₂_reverse_iff, List.reverse_append,
          List.reverse_append] at written
        exact (List.forall₂_cons.mp written).1
      have read := lastEventUnlocked_of_finalLine (finalLine_lines last earlier)
        (by rw [decodeUtf8_utf8]; exact last.stripped.2) supply
      rw [read, List.getLast?_concat]

end Backwards

/-! ## Agreement -/

/-- The readers agree on a file of events exactly when no event's text has a
carriage return. -/
theorem readersAgree_iff {host : Host} {supply : Supply}
    {lines : List (List Char)} {events : List LedgerEvent}
    (written : List.Forall₂ (EventLine host) lines events) :
    ReadersAgree host lines ⟨utf8 (Lines.terminated '\n' lines), supply⟩ ↔
      ∀ line ∈ lines, '\r' ∉ Json.trim line := by
  constructor
  · rintro ⟨rows, -, forward, -⟩ line member returned
    exact readUnlocked_torn written member returned rows forward
  · intro clean
    refine ⟨events, events.getLast?, readUnlocked_clean written clean,
      lastEventUnlocked_lines written, rfl, ?_⟩
    rw [List.getLast?_eq_none_iff, ← List.length_eq_zero_iff,
      ← List.length_eq_zero_iff, written.length_eq]

/-- The lines of two appended events. -/
theorem readersAgree_iff_sample :
    ReadersAgree Host.counting
      [(sampleEvent "acme" "evt_1").line, (sampleEvent "initech" "evt_2").line]
      ⟨utf8 (Lines.terminated '\n' [(sampleEvent "acme" "evt_1").line,
        (sampleEvent "initech" "evt_2").line]), {}⟩ := by
  have first := eventLine_line Host.counting
    (readable_sampleEvent "acme" "evt_1" (by decide))
  have second := eventLine_line Host.counting
    (readable_sampleEvent "initech" "evt_2" (by decide))
  rw [readersAgree_iff (.cons first (.cons second .nil))]
  intro line member
  simp only [List.mem_cons, List.not_mem_nil, or_false] at member
  rcases member with rfl | rfl <;> exact return_not_mem_line _

/-- One event whose text has a carriage return between two tokens: the backward
reader returns it, the forward reader fails. -/
theorem not_readersAgree_sample :
    let event := sampleEvent "acme" "evt_1"
    let state : LedgerState :=
      ⟨utf8 (Lines.terminated '\n' [event.returnedLine]), {}⟩
    List.Forall₂ (EventLine Host.counting) [event.returnedLine]
        [event.canonical] ∧
      (JSONLLedger.lastEventUnlocked Host.counting state).1 =
        .ok (some event.canonical) ∧
      ¬ ReadersAgree Host.counting [event.returnedLine] state := by
  intro event state
  have written : List.Forall₂ (EventLine Host.counting) [event.returnedLine]
      [event.canonical] :=
    .cons (eventLine_returnedLine Host.counting
      (readable_sampleEvent "acme" "evt_1" (by decide))) .nil
  refine ⟨written, lastEventUnlocked_lines written, ?_⟩
  rintro ⟨rows, -, forward, -⟩
  refine readUnlocked_torn written List.mem_cons_self ?_ rows forward
  rw [event.trim_returnedLine, LedgerEvent.returnedLine]
  simp

end Urp
