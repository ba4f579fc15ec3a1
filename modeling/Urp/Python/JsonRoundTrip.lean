import Urp.Python.Json
import Urp.Python.Sha256
import Mathlib.Tactic.IntervalCases

/-!
# Reading back written JSON

`loads_dumps`: the text of a JSON value loads as the value with its keys
sorted.  `pyEq_sorted`: on values without NaN this is the same value to
Python's `==`.  Each parser is shown to stop exactly where the text it reads
was written, for any continuation that cannot extend a number.
-/

namespace Python

namespace Json

theorem after_append (word rest : List Char) :
    after word (word ++ rest) = some rest := by
  induction word with
  | nil => rfl
  | cons c word ih => simp [after, ih]

theorem after_ne {c d : Char} (different : c ≠ d) (word rest : List Char) :
    after (c :: word) (d :: rest) = none := by
  simp [after, different]

/-! ## Strings -/

theorem hexDigit?_hexChar (n : Nat) : hexDigit? (hexChar n) = some (n % 16) := by
  have every : ∀ d < 16, hexDigit? (Nat.digitChar d) = some d := by decide
  exact every _ (Nat.mod_lt n (by decide))

theorem parseHex_hexText {n : Nat} (small : n < 0x10000) (rest : List Char) :
    parseHex (hexText 4 n ++ rest) = some (n, rest) := by
  have value : ((n / 16 / 16 / 16 % 16 * 16 + n / 16 / 16 % 16) * 16 +
      n / 16 % 16) * 16 + n % 16 = n := by omega
  simp [hexText, parseHex, hexDigit?_hexChar, value]

theorem length_escapeChar_pos (c : Char) : 0 < (escapeChar c).length := by
  unfold escapeChar unicodeEscape
  split_ifs <;> simp

private theorem toNat_ranges (c : Char) :
    c.toNat < 0xD800 ∨ 0xDFFF < c.toNat ∧ c.toNat < 0x110000 := by
  have valid := c.valid
  simpa [UInt32.isValidChar, Nat.isValidChar] using valid

theorem parseUnicode_basic {c : Char} (basic : c.toNat < 0x10000)
    (rest : List Char) :
    parseUnicode (hexText 4 c.toNat ++ rest) = some (c, rest) := by
  have ranges := toNat_ranges c
  have notHigh : isHighSurrogate c.toNat = false := by
    simp only [isHighSurrogate, Bool.and_eq_false_iff, decide_eq_false_iff_not]
    omega
  have notLow : isLowSurrogate c.toNat = false := by
    simp only [isLowSurrogate, Bool.and_eq_false_iff, decide_eq_false_iff_not]
    omega
  simp [parseUnicode, parseHex_hexText basic, notHigh, notLow,
    Char.ofNat_toNat]

theorem parseUnicode_surrogates {high low : Nat}
    (isHigh : isHighSurrogate high = true) (isLow : isLowSurrogate low = true)
    (highSmall : high < 0x10000) (lowSmall : low < 0x10000)
    (rest : List Char) :
    parseUnicode (hexText 4 high ++ (unicodeEscape low ++ rest)) =
      some (Char.ofNat (0x10000 + (high - 0xD800) * 0x400 + (low - 0xDC00)),
        rest) := by
  simp [parseUnicode, parseHex_hexText highSmall, isHigh, unicodeEscape, after,
    parseHex_hexText lowSmall, isLow]

theorem parseUnicode_pair {c : Char} (beyond : 0x10000 ≤ c.toNat)
    (rest : List Char) :
    parseUnicode (hexText 4 (0xD800 + (c.toNat - 0x10000) / 0x400) ++
      (unicodeEscape (0xDC00 + (c.toNat - 0x10000) % 0x400) ++ rest)) =
      some (c, rest) := by
  have ranges := toNat_ranges c
  generalize highSame : 0xD800 + (c.toNat - 0x10000) / 0x400 = high
  generalize lowSame : 0xDC00 + (c.toNat - 0x10000) % 0x400 = low
  have isHigh : isHighSurrogate high = true := by
    simp only [isHighSurrogate, Bool.and_eq_true, decide_eq_true_eq]
    omega
  have isLow : isLowSurrogate low = true := by
    simp only [isLowSurrogate, Bool.and_eq_true, decide_eq_true_eq]
    omega
  have together : 0x10000 + (high - 0xD800) * 0x400 + (low - 0xDC00) =
      c.toNat := by omega
  rw [parseUnicode_surrogates isHigh isLow (by omega) (by omega), together,
    Char.ofNat_toNat]

theorem parseChar_escapeChar (c : Char) (rest : List Char) :
    parseChar (escapeChar c ++ rest) = some (c, rest) := by
  unfold escapeChar
  split_ifs with quote backslash newline carriage tab feed back printable basic
  · subst c; rfl
  · subst c; rfl
  · subst c; rfl
  · subst c; rfl
  · subst c; rfl
  · subst c; rfl
  · subst c; rfl
  · have notControl : ¬ c.toNat < 32 := by omega
    simp [parseChar, backslash, notControl]
  · exact parseUnicode_basic basic rest
  · rw [List.append_assoc]
    exact parseUnicode_pair (Nat.le_of_not_lt basic) rest

theorem after_quote_escapeChar (c : Char) (rest : List Char) :
    after ['"'] (escapeChar c ++ rest) = none := by
  unfold escapeChar
  split_ifs with quote
  all_goals simp [after, unicodeEscape]
  exact fun same => quote same.symm

/-- The body of a written string reads back as the string. -/
theorem parseString_body (text rest : List Char) {fuel : Nat}
    (enough : (text.flatMap escapeChar).length < fuel) :
    parseString fuel (text.flatMap escapeChar ++ '"' :: rest) =
      some (text, rest) := by
  induction text generalizing fuel with
  | nil =>
      obtain ⟨fuel, rfl⟩ := Nat.exists_eq_add_of_lt enough
      simp [parseString, after]
  | cons c text ih =>
      rw [List.flatMap_cons] at enough ⊢
      have positive := length_escapeChar_pos c
      rw [List.length_append] at enough
      obtain ⟨less, rfl⟩ := Nat.exists_eq_succ_of_ne_zero (by omega : fuel ≠ 0)
      rw [List.append_assoc, parseString, after_quote_escapeChar]
      simp only [parseChar_escapeChar]
      rw [ih (by omega)]
      rfl

theorem parseString_quoted (text rest : List Char) :
    parseString (text.flatMap escapeChar ++ '"' :: rest).length
      (text.flatMap escapeChar ++ '"' :: rest) = some (text, rest) := by
  apply parseString_body
  simp only [List.length_append, List.length_cons]
  omega

/-! ## Numbers -/

/-- The continuation cannot extend a number. -/
def EndsNumber (rest : List Char) : Prop :=
  ∀ c tail, rest = c :: tail →
    c.isDigit = false ∧ c ≠ '.' ∧ c ≠ 'e' ∧ c ≠ 'E'

theorem endsNumber_nil : EndsNumber [] := by
  intro c tail same
  cases same

theorem endsNumber_cons {c : Char} (notDigit : c.isDigit = false)
    (notDot : c ≠ '.') (notExponent : c ≠ 'e' ∧ c ≠ 'E') (rest : List Char) :
    EndsNumber (c :: rest) := by
  intro d tail same
  cases same
  exact ⟨notDigit, notDot, notExponent⟩

theorem spanDigits_append {digits rest : List Char}
    (isDigits : ∀ c ∈ digits, c.isDigit = true)
    (ends : ∀ c tail, rest = c :: tail → c.isDigit = false) :
    spanDigits (digits ++ rest) = (digits, rest) := by
  have stops : rest.takeWhile Char.isDigit = [] ∧
      rest.dropWhile Char.isDigit = rest := by
    cases rest with
    | nil => exact ⟨rfl, rfl⟩
    | cons c tail => simp [ends c tail rfl]
  unfold spanDigits
  rw [List.takeWhile_append_of_pos isDigits,
    List.dropWhile_append_of_pos isDigits, stops.1, stops.2, List.append_nil]

theorem isDigit_digitText (digit : Fin 10) :
    (digitText digit).isDigit = true := by
  revert digit
  decide

theorem digitOf_digitText (digit : Fin 10) :
    digitOf (digitText digit) = digit := by
  revert digit
  decide

theorem digitText_digits {digits : List (Fin 10)} {c : Char}
    (member : c ∈ digits.map digitText) : c.isDigit = true := by
  obtain ⟨digit, -, rfl⟩ := List.mem_map.mp member
  exact isDigit_digitText digit

theorem toDigits_digits {n : Nat} {c : Char}
    (member : c ∈ Nat.toDigits 10 n) : c.isDigit = true :=
  Nat.isDigit_of_mem_toDigits (by decide) (by decide) member

/-- A positive number is written without a leading zero. -/
theorem toDigits_head {n : Nat} (positive : 0 < n) :
    ∃ c digits, Nat.toDigits 10 n = c :: digits ∧ c ≠ '0' := by
  induction n using Nat.strong_induction_on with
  | _ n induction =>
      rw [Nat.toDigits_eq_if (by decide)]
      split
      · rename_i small
        refine ⟨n.digitChar, [], rfl, ?_⟩
        interval_cases n <;> decide
      · rename_i large
        obtain ⟨c, digits, same, nonzero⟩ :=
          induction (n / 10) (by omega) (by omega)
        exact ⟨c, digits ++ [(n % 10).digitChar], by simp [same], nonzero⟩

theorem parseWhole_toDigits (n : Nat) {rest : List Char}
    (ends : ∀ c tail, rest = c :: tail → c.isDigit = false) :
    parseWhole (Nat.toDigits 10 n ++ rest) = some (n, rest) := by
  rcases Nat.eq_zero_or_pos n with rfl | positive
  · rfl
  · obtain ⟨c, digits, same, nonzero⟩ := toDigits_head positive
    have isDigits : ∀ d ∈ c :: digits, d.isDigit = true := by
      rw [← same]
      exact fun d => toDigits_digits
    have value : Nat.ofDigitChars 10 (c :: digits) 0 = n := by
      rw [← same]
      exact Nat.ofDigitChars_ten_toDigits
    unfold parseWhole
    rw [same, spanDigits_append isDigits ends, List.cons_append,
      after_ne (Ne.symm nonzero)]
    simp only [value]

theorem parseFraction_written (digits : List (Fin 10)) {rest : List Char}
    (ends : ∀ c tail, rest = c :: tail → c.isDigit = false ∧ c ≠ '.') :
    parseFraction ((if digits.isEmpty then []
      else '.' :: digits.map digitText) ++ rest) = (digits, rest) := by
  cases digits with
  | nil =>
      cases rest with
      | nil => rfl
      | cons c tail =>
          simp [parseFraction, after, Ne.symm (ends c tail rfl).2]
  | cons digit digits =>
      have span := spanDigits_append
        (fun c => @digitText_digits (digit :: digits) c)
        (fun c tail same => (ends c tail same).1)
      rw [List.map_cons] at span
      simp only [List.isEmpty_cons, Bool.false_eq_true, if_false,
        List.map_cons, List.cons_append, parseFraction, after, if_true]
      rw [← List.cons_append, span]
      simp [digitOf_digitText, Function.comp_def]

theorem parseExponent_written (exponent : Exponent) {rest : List Char}
    (ends : ∀ c tail, rest = c :: tail → c.isDigit = false) :
    parseExponent (exponentText exponent ++ rest) = (some exponent, rest) := by
  obtain ⟨negative, lead, digits⟩ := exponent
  have span := spanDigits_append
    (fun c => @digitText_digits (lead :: digits) c) ends
  rw [List.map_cons, List.cons_append] at span
  cases negative <;>
    simp [parseExponent, exponentText, parseSign, after, span,
      digitOf_digitText, Function.comp_def]

theorem parseExponent_absent {rest : List Char} (ends : EndsNumber rest) :
    parseExponent rest = (none, rest) := by
  cases rest with
  | nil => rfl
  | cons c tail =>
      have head := ends c tail rfl
      simp [parseExponent, head.2.2.1, head.2.2.2]

theorem parseSign_toDigits (n : Nat) (rest : List Char) :
    parseSign (Nat.toDigits 10 n ++ rest) =
      (false, Nat.toDigits 10 n ++ rest) := by
  obtain ⟨c, digits, same⟩ := List.exists_cons_of_ne_nil
    (Nat.toDigits_ne_nil : Nat.toDigits 10 n ≠ [])
  have isDigit : c.isDigit = true :=
    toDigits_digits (same ▸ List.mem_cons_self : c ∈ Nat.toDigits 10 n)
  have notMinus : '-' ≠ c := by
    rintro rfl
    exact absurd isDigit (by decide)
  simp [parseSign, same, after, notMinus]

theorem parseNumber_intText (n : Int) {rest : List Char}
    (ends : EndsNumber rest) :
    parseNumber (intText n ++ rest) = some (.int n, rest) := by
  have notDigit : ∀ c tail, rest = c :: tail → c.isDigit = false :=
    fun c tail same => (ends c tail same).1
  have noFraction : parseFraction rest = ([], rest) :=
    parseFraction_written [] fun c tail same =>
      ⟨(ends c tail same).1, (ends c tail same).2.1⟩
  cases n with
  | ofNat n =>
      simp [parseNumber, intText, parseSign_toDigits,
        parseWhole_toDigits n notDigit, noFraction, parseExponent_absent ends]
  | negSucc n =>
      simp only [parseNumber, intText, parseSign, List.cons_append, after,
        if_true, parseWhole_toDigits (n + 1) notDigit, noFraction,
        parseExponent_absent ends]
      rfl

theorem parseNumber_decimalText (text : Decimal) {rest : List Char}
    (ends : EndsNumber rest) :
    parseNumber (decimalText text ++ rest) =
      some (.float (.finite text), rest) := by
  obtain ⟨negative, whole, fraction, exponent, marked⟩ := text
  generalize exponentPart : exponent.elim [] exponentText = tailText
  have noDigit : ∀ c tail, tailText ++ rest = c :: tail →
      c.isDigit = false ∧ c ≠ '.' := by
    intro c tail same
    cases exponent with
    | none =>
        simp only [Option.elim_none] at exponentPart
        subst exponentPart
        exact ⟨(ends c tail same).1, (ends c tail same).2.1⟩
    | some exponent =>
        simp only [Option.elim_some, exponentText] at exponentPart
        subst exponentPart
        cases same
        decide
  have exponentRead : parseExponent (tailText ++ rest) = (exponent, rest) := by
    cases exponent with
    | none =>
        simp only [Option.elim_none] at exponentPart
        subst exponentPart
        exact parseExponent_absent ends
    | some exponent =>
        simp only [Option.elim_some] at exponentPart
        subst exponentPart
        exact parseExponent_written exponent fun c tail same =>
          (ends c tail same).1
  have fractionRead := parseFraction_written fraction noDigit
  have wholeEnds : ∀ c tail,
      ((if fraction.isEmpty then [] else '.' :: fraction.map digitText) ++
        (tailText ++ rest)) = c :: tail → c.isDigit = false := by
    intro c tail same
    cases fraction with
    | nil => exact (noDigit c tail same).1
    | cons digit digits =>
        cases same
        decide
  have wholeRead := parseWhole_toDigits whole wholeEnds
  have signRead := parseSign_toDigits whole
    ((if fraction.isEmpty then [] else '.' :: fraction.map digitText) ++
      (tailText ++ rest))
  have text : decimalText ⟨negative, whole, fraction, exponent, marked⟩ ++ rest =
      (if negative then ['-'] else []) ++ (Nat.toDigits 10 whole ++
        ((if fraction.isEmpty then [] else '.' :: fraction.map digitText) ++
          (tailText ++ rest))) := by
    subst exponentPart
    cases exponent with
    | none => simp only [decimalText, List.append_assoc, Option.elim_none]
    | some exponent => simp only [decimalText, List.append_assoc, Option.elim_some]
  rw [text]
  cases negative with
  | false =>
      simp only [Bool.false_eq_true, if_false, List.nil_append, parseNumber,
        signRead, wholeRead, fractionRead, exponentRead]
      rw [dif_pos marked]
  | true =>
      simp only [if_true, List.cons_append, List.nil_append, parseNumber,
        parseSign, after, wholeRead, fractionRead, exponentRead]
      rw [dif_pos marked]

/-! ## Written text is printable ASCII -/

def isPrintableAscii (c : Char) : Bool := 32 ≤ c.toNat && c.toNat ≤ 126

/-- Every character of the text is printable ASCII. -/
def Printable (text : List Char) : Prop :=
  ∀ c ∈ text, isPrintableAscii c = true

instance (text : List Char) : Decidable (Printable text) :=
  List.decidableBAll (fun c => isPrintableAscii c = true) text

theorem printable_append {left right : List Char} (first : Printable left)
    (second : Printable right) : Printable (left ++ right) :=
  List.forall_mem_append.mpr ⟨first, second⟩

theorem printable_cons {c : Char} {text : List Char}
    (head : isPrintableAscii c = true) (tail : Printable text) :
    Printable (c :: text) := by
  intro d member
  rcases List.mem_cons.mp member with rfl | there
  · exact head
  · exact tail d there

theorem printable_nil : Printable [] := by
  intro c member
  cases member

theorem printable_of_isDigit {text : List Char}
    (digits : ∀ c ∈ text, c.isDigit = true) : Printable text := by
  intro c member
  have digit := digits c member
  simp only [Char.isDigit, Bool.and_eq_true, decide_eq_true_eq,
    UInt32.le_iff_toNat_le] at digit
  have low : 48 ≤ c.toNat := digit.1
  have high : c.toNat ≤ 57 := digit.2
  simp only [isPrintableAscii, Bool.and_eq_true, decide_eq_true_eq]
  omega

theorem printable_hexText (width n : Nat) : Printable (hexText width n) := by
  intro c member
  have digit := hexText_digits member
  have every : Printable "0123456789abcdef".toList := by decide
  exact every c (by simpa [isHexDigit] using digit)

theorem printable_unicodeEscape (n : Nat) : Printable (unicodeEscape n) :=
  printable_cons (by decide) (printable_cons (by decide)
    (printable_hexText 4 n))

theorem printable_escapeChar (c : Char) : Printable (escapeChar c) := by
  unfold escapeChar
  split_ifs with _ _ _ _ _ _ _ printable
  all_goals try exact
    printable_cons (by decide) (printable_cons (by decide) printable_nil)
  · refine printable_cons ?_ printable_nil
    simpa [isPrintableAscii] using printable
  · exact printable_unicodeEscape _
  · exact printable_append (printable_unicodeEscape _)
      (printable_unicodeEscape _)

theorem printable_renderString (text : List Char) :
    Printable (renderString text) := by
  refine printable_cons (by decide) (printable_append ?_
    (printable_cons (by decide) printable_nil))
  intro c member
  obtain ⟨d, -, escaped⟩ := List.mem_flatMap.mp member
  exact printable_escapeChar d c escaped

theorem printable_toDigits (n : Nat) : Printable (Nat.toDigits 10 n) :=
  printable_of_isDigit fun _ => toDigits_digits

theorem printable_intText (n : Int) : Printable (intText n) := by
  cases n with
  | ofNat n => exact printable_toDigits n
  | negSucc n => exact printable_cons (by decide) (printable_toDigits (n + 1))

theorem printable_decimalText (text : Decimal) :
    Printable (decimalText text) := by
  obtain ⟨negative, whole, fraction, exponent, marked⟩ := text
  have digits : ∀ written : List (Fin 10),
      Printable (written.map digitText) := fun written =>
    printable_of_isDigit fun _ => digitText_digits
  unfold decimalText
  refine printable_append (printable_append (printable_append ?_
    (printable_toDigits whole)) ?_) ?_
  · cases negative
    · exact printable_nil
    · exact printable_cons (by decide) printable_nil
  · cases fraction with
    | nil => exact printable_nil
    | cons digit rest =>
        exact printable_cons (by decide) (digits (digit :: rest))
  · cases exponent with
    | none => exact printable_nil
    | some exponent =>
        refine printable_cons (by decide) (printable_cons ?_
          (digits (exponent.lead :: exponent.digits)))
        cases exponent.negative <;> decide

theorem printable_renderFloat (f : PyFloat) : Printable (renderFloat f) := by
  match f with
  | .finite text => exact printable_decimalText text
  | .infinity true | .infinity false | .nan => decide

theorem printable_space (style : Style) : Printable style.space := by
  cases style
  · exact printable_cons (by decide) printable_nil
  · exact printable_nil

mutual

theorem printable_render (style : Style) (value : Value) :
    Printable (render style value) := by
  match value with
  | .none => exact (by decide : Printable "null".toList)
  | .bool true => exact (by decide : Printable "true".toList)
  | .bool false => exact (by decide : Printable "false".toList)
  | .int n => exact printable_intText n
  | .float f => exact printable_renderFloat f
  | .str s => exact printable_renderString s.toList
  | .bytes b => exact printable_renderString (reprBytes b)
  | .list items =>
      exact printable_cons (by decide) (printable_renderList style items)
  | .dict entries =>
      exact printable_cons (by decide) (printable_renderEntries style entries)

theorem printable_renderList (style : Style) (items : List Value) :
    Printable (renderList style items) := by
  have close : Printable [']'] := printable_cons (by decide) printable_nil
  match items with
  | [] => exact close
  | [item] => exact printable_append (printable_render style item) close
  | item :: next :: rest =>
      exact printable_append
        (printable_append (printable_render style item)
          (printable_cons (by decide) (printable_space style)))
        (printable_renderList style (next :: rest))

theorem printable_renderEntries (style : Style)
    (entries : List (String × Value)) :
    Printable (renderEntries style entries) := by
  have close : Printable ['}'] := printable_cons (by decide) printable_nil
  have pair : ∀ key value, Printable (render style value) →
      Printable (renderString key ++ ':' :: style.space ++
        render style value) := fun key value printed =>
    printable_append (printable_append (printable_renderString key)
      (printable_cons (by decide) (printable_space style))) printed
  match entries with
  | [] => exact close
  | [(key, value)] =>
      exact printable_append
        (pair key.toList value (printable_render style value)) close
  | (key, value) :: next :: rest =>
      exact printable_append
        (printable_append
          (pair key.toList value (printable_render style value))
          (printable_cons (by decide) (printable_space style)))
        (printable_renderEntries style (next :: rest))

end

theorem printable_dumps (style : Style) (value : Value) :
    Printable (dumps style value) := printable_render style value.sorted

/-! ## Values -/

/-- A digit, after a sign or not. -/
def StartsNumber (text : List Char) : Prop :=
  ∃ d tail, d.isDigit = true ∧ (text = d :: tail ∨ text = '-' :: d :: tail)

theorem startsNumber_toDigits (n : Nat) (rest : List Char) :
    ∃ d tail, d.isDigit = true ∧ Nat.toDigits 10 n ++ rest = d :: tail := by
  obtain ⟨d, digits, same⟩ := List.exists_cons_of_ne_nil
    (Nat.toDigits_ne_nil : Nat.toDigits 10 n ≠ [])
  have isDigit : d.isDigit = true :=
    toDigits_digits (same ▸ List.mem_cons_self : d ∈ Nat.toDigits 10 n)
  exact ⟨d, digits ++ rest, isDigit, by simp [same]⟩

theorem startsNumber_intText (n : Int) (rest : List Char) :
    StartsNumber (intText n ++ rest) := by
  cases n with
  | ofNat n =>
      obtain ⟨d, tail, isDigit, same⟩ := startsNumber_toDigits n rest
      exact ⟨d, tail, isDigit, .inl same⟩
  | negSucc n =>
      obtain ⟨d, tail, isDigit, same⟩ := startsNumber_toDigits (n + 1) rest
      refine ⟨d, tail, isDigit, .inr ?_⟩
      simp only [intText, List.cons_append, same]

theorem startsNumber_decimalText (text : Decimal) (rest : List Char) :
    StartsNumber (decimalText text ++ rest) := by
  unfold decimalText
  simp only [List.append_assoc]
  generalize (if text.fraction.isEmpty = true then []
    else '.' :: List.map digitText text.fraction) ++ (_ ++ rest) = after
  obtain ⟨d, tail, isDigit, same⟩ := startsNumber_toDigits text.whole after
  cases text.negative with
  | false => exact ⟨d, tail, isDigit, .inl (by simpa using same)⟩
  | true => exact ⟨d, tail, isDigit, .inr (by simpa using same)⟩

private theorem digit_ne {c d : Char} (isDigit : d.isDigit = true)
    (notDigit : c.isDigit = false) : c ≠ d := by
  rintro rfl
  rw [isDigit] at notDigit
  cases notDigit

theorem parseLiteral_number {text : List Char} (number : StartsNumber text) :
    parseLiteral text literals = none := by
  obtain ⟨d, tail, isDigit, rfl | rfl⟩ := number
  · have n := digit_ne isDigit (by decide : 'n'.isDigit = false)
    have t := digit_ne isDigit (by decide : 't'.isDigit = false)
    have f := digit_ne isDigit (by decide : 'f'.isDigit = false)
    have N := digit_ne isDigit (by decide : 'N'.isDigit = false)
    have I := digit_ne isDigit (by decide : 'I'.isDigit = false)
    have minus := digit_ne isDigit (by decide : '-'.isDigit = false)
    simp [literals, parseLiteral, after, n, t, f, N, I, minus]
  · have I := digit_ne isDigit (by decide : 'I'.isDigit = false)
    simp [literals, parseLiteral, after, I]

theorem parseValue_number {text : List Char} (number : StartsNumber text)
    (fuel : Nat) : parseValue (fuel + 1) text = parseNumber text := by
  have noLiteral := parseLiteral_number number
  obtain ⟨d, tail, isDigit, rfl | rfl⟩ := number
  · have quote := digit_ne isDigit (by decide : '"'.isDigit = false)
    have bracket := digit_ne isDigit (by decide : '['.isDigit = false)
    have brace := digit_ne isDigit (by decide : '{'.isDigit = false)
    rw [parseValue]
    simp only [Ne.symm quote, Ne.symm bracket, Ne.symm brace, if_false,
      noLiteral]
  · rw [parseValue]
    simp [noLiteral]

theorem skip_of_head {c : Char} (notBlank : isBlank c = false)
    (tail : List Char) : skip (c :: tail) = c :: tail := by
  simp [skip, notBlank]

theorem skip_space (style : Style) (text : List Char) :
    skip (style.space ++ text) = skip text := by
  cases style <;> simp [Style.space, skip, isBlank]

theorem isBlank_digit {d : Char} (isDigit : d.isDigit = true) :
    isBlank d = false := by
  have space := digit_ne isDigit (by decide : ' '.isDigit = false)
  have tab := digit_ne isDigit (by decide : '\t'.isDigit = false)
  have newline := digit_ne isDigit (by decide : '\n'.isDigit = false)
  have carriage := digit_ne isDigit (by decide : '\r'.isDigit = false)
  simp [isBlank, Ne.symm space, Ne.symm tab, Ne.symm newline,
    Ne.symm carriage]

section

variable (style : Style)

/-- A written value starts with neither a blank nor a closing bracket. -/
theorem render_head (value : Value) :
    ∃ c tail, render style value = c :: tail ∧ isBlank c = false ∧
      c ≠ ']' := by
  have ofNumber : ∀ {text}, StartsNumber text →
      ∃ c tail, text = c :: tail ∧ isBlank c = false ∧ c ≠ ']' := by
    rintro text ⟨d, tail, isDigit, rfl | rfl⟩
    · exact ⟨d, tail, rfl, isBlank_digit isDigit,
        Ne.symm (digit_ne isDigit (by decide))⟩
    · exact ⟨'-', d :: tail, rfl, by decide, by decide⟩
  cases value with
  | none => exact ⟨'n', _, rfl, by decide, by decide⟩
  | bool b =>
      cases b
      · exact ⟨'f', _, rfl, by decide, by decide⟩
      · exact ⟨'t', _, rfl, by decide, by decide⟩
  | int n =>
      have number := startsNumber_intText n []
      rw [List.append_nil] at number
      exact ofNumber number
  | float f =>
      cases f with
      | finite text =>
          have number := startsNumber_decimalText text []
          rw [List.append_nil] at number
          exact ofNumber number
      | infinity negative =>
          cases negative
          · exact ⟨'I', _, rfl, by decide, by decide⟩
          · exact ⟨'-', _, rfl, by decide, by decide⟩
      | nan => exact ⟨'N', _, rfl, by decide, by decide⟩
  | str s => exact ⟨'"', _, rfl, by decide, by decide⟩
  | bytes b => exact ⟨'"', _, rfl, by decide, by decide⟩
  | list items => exact ⟨'[', _, rfl, by decide, by decide⟩
  | dict entries => exact ⟨'{', _, rfl, by decide, by decide⟩

theorem skip_render (value : Value) (rest : List Char) :
    skip (render style value ++ rest) = render style value ++ rest := by
  obtain ⟨c, tail, same, notBlank, -⟩ := render_head style value
  rw [same, List.cons_append, skip_of_head notBlank]

theorem renderList_head (item : Value) (items : List Value) :
    ∃ tail, renderList style (item :: items) = render style item ++ tail := by
  cases items with
  | nil => exact ⟨[']'], rfl⟩
  | cons next items =>
      exact ⟨',' :: style.space ++ renderList style (next :: items), by
        simp [renderList]⟩

theorem skip_renderList (item : Value) (items : List Value)
    (rest : List Char) :
    skip (renderList style (item :: items) ++ rest) =
        renderList style (item :: items) ++ rest ∧
      after [']'] (renderList style (item :: items) ++ rest) = none := by
  obtain ⟨more, same⟩ := renderList_head style item items
  obtain ⟨c, tail, head, notBlank, notClose⟩ := render_head style item
  rw [same, head, List.cons_append, List.cons_append]
  exact ⟨skip_of_head notBlank _, after_ne (Ne.symm notClose) _ _⟩

theorem renderEntries_head (entry : String × Value)
    (entries : List (String × Value)) :
    ∃ tail, renderEntries style (entry :: entries) =
      '"' :: (entry.1.toList.flatMap escapeChar ++ '"' :: ':' ::
        (style.space ++ (render style entry.2 ++ tail))) ∧
      tail = match entries with
        | [] => ['}']
        | next :: rest =>
            ',' :: (style.space ++ renderEntries style (next :: rest)) := by
  obtain ⟨key, value⟩ := entry
  cases entries with
  | nil => exact ⟨_, by simp [renderEntries, renderString], rfl⟩
  | cons next entries => exact ⟨_, by simp [renderEntries, renderString], rfl⟩

/-- What every parser reads back with the given fuel, which the length of the
written text bounds. -/
structure ReadsBack (fuel : Nat) : Prop where
  value : ∀ (value : Value) (rest : List Char), value.isJson = true →
    EndsNumber rest → (render style value).length ≤ fuel →
    parseValue fuel (render style value ++ rest) = some (value, rest)
  items : ∀ (item : Value) (items : List Value) (rest : List Char),
    Value.isJsonList (item :: items) = true →
    (renderList style (item :: items)).length ≤ fuel →
    parseItems fuel (renderList style (item :: items) ++ rest) =
      some (item :: items, rest)
  entries : ∀ (entry : String × Value)
    (entries before : List (String × Value)) (rest : List Char),
    Value.isJsonEntries (entry :: entries) = true →
    ((before ++ entry :: entries).map Prod.fst).Nodup →
    (renderEntries style (entry :: entries)).length ≤ fuel →
    parseEntries fuel (renderEntries style (entry :: entries) ++ rest) before =
      some (before ++ entry :: entries, rest)

variable {style} {fuel : Nat} (reads : ReadsBack style fuel)

include reads

theorem ReadsBack.value_succ (value : Value) (rest : List Char)
    (json : value.isJson = true) (ends : EndsNumber rest)
    (enough : (render style value).length ≤ fuel + 1) :
    parseValue (fuel + 1) (render style value ++ rest) =
      some (value, rest) := by
  match value with
  | .none => rfl
  | .bool true => rfl
  | .bool false => rfl
  | .int n =>
      simp only [render]
      rw [parseValue_number (startsNumber_intText n rest),
        parseNumber_intText n ends]
  | .float (.finite text) =>
      simp only [render, renderFloat]
      rw [parseValue_number (startsNumber_decimalText text rest),
        parseNumber_decimalText text ends]
  | .float (.infinity true) => rfl
  | .float (.infinity false) => rfl
  | .float .nan => rfl
  | .str s =>
      simp only [render, renderString, List.cons_append, List.append_assoc,
        List.nil_append]
      rw [parseValue, if_pos rfl, parseString_quoted]
      simp
  | .bytes b => simp [Value.isJson] at json
  | .list [] => rfl
  | .list (item :: items) =>
      have unopened := skip_renderList style item items rest
      have read := reads.items item items rest json
        (by simpa [render] using enough)
      simp only [render, List.cons_append]
      rw [parseValue, if_neg (by decide), if_pos rfl, unopened.1,
        unopened.2]
      simp only [read, Option.map_some]
  | .dict [] => rfl
  | .dict (entry :: entries) =>
      simp only [Value.isJson, Bool.and_eq_true, decide_eq_true_eq] at json
      have read := reads.entries entry entries [] rest json.2
        (by simpa using json.1) (by simpa [render] using enough)
      obtain ⟨more, same, -⟩ := renderEntries_head style entry entries
      simp only [render, List.cons_append]
      rw [parseValue, if_neg (by decide), if_neg (by decide), if_pos rfl]
      rw [same, List.cons_append] at read ⊢
      rw [skip_of_head (by decide), after_ne (by decide)]
      simp only [read, Option.map_some, List.nil_append]

theorem ReadsBack.items_succ (item : Value) (items : List Value)
    (rest : List Char) (json : Value.isJsonList (item :: items) = true)
    (enough : (renderList style (item :: items)).length ≤ fuel + 1) :
    parseItems (fuel + 1) (renderList style (item :: items) ++ rest) =
      some (item :: items, rest) := by
  simp only [Value.isJsonList, Bool.and_eq_true] at json
  cases items with
  | nil =>
      simp only [renderList, List.length_append, List.length_singleton]
        at enough
      have read := reads.value item (']' :: rest) json.1
        (endsNumber_cons (by decide) (by decide) (by decide) rest) (by omega)
      simp only [renderList, List.append_assoc, List.cons_append,
        List.nil_append]
      rw [parseItems, read]
      simp [skip_of_head (by decide : isBlank ']' = false), after]
  | cons next items =>
      simp only [renderList, List.length_append, List.length_cons] at enough
      have read := reads.value item
        (',' :: (style.space ++ (renderList style (next :: items) ++ rest)))
        json.1 (endsNumber_cons (by decide) (by decide) (by decide) _)
        (by omega)
      have readRest := reads.items next items rest
        (by simpa [Value.isJsonList] using json.2) (by omega)
      simp only [renderList, List.append_assoc, List.cons_append]
      rw [parseItems, read]
      simp only [skip_of_head (by decide : isBlank ',' = false), after,
        if_true, skip_space, (skip_renderList style next items rest).1,
        readRest, Option.map_some]

theorem ReadsBack.entries_succ (entry : String × Value)
    (entries before : List (String × Value)) (rest : List Char)
    (json : Value.isJsonEntries (entry :: entries) = true)
    (distinct : ((before ++ entry :: entries).map Prod.fst).Nodup)
    (enough : (renderEntries style (entry :: entries)).length ≤ fuel + 1) :
    parseEntries (fuel + 1) (renderEntries style (entry :: entries) ++ rest)
      before = some (before ++ entry :: entries, rest) := by
  obtain ⟨key, value⟩ := entry
  simp only [Value.isJsonEntries, Bool.and_eq_true] at json
  have fresh : key ∉ before.map Prod.fst := by
    rw [List.map_append, List.map_cons] at distinct
    intro member
    exact (List.nodup_append.mp distinct).2.2 _ member _ List.mem_cons_self rfl
  have inserted := Entries.insert_of_not_mem value fresh
  obtain ⟨more, same, moreSame⟩ := renderEntries_head style (key, value) entries
  rw [same] at enough ⊢
  simp only [List.length_cons, List.length_append] at enough
  have ends : EndsNumber (more ++ rest) := by
    cases entries <;> rw [moreSame] <;>
      exact endsNumber_cons (by decide) (by decide) (by decide) _
  have read := reads.value value (more ++ rest) json.1 ends (by omega)
  simp only [List.cons_append, List.append_assoc]
  rw [parseEntries, after, if_pos rfl, after]
  simp only [parseString_quoted, skip_of_head (by decide : isBlank ':' = false),
    after, if_true, skip_space, skip_render, read, String.ofList_toList,
    inserted]
  cases entries with
  | nil =>
      simp only at moreSame
      subst moreSame
      simp [skip_of_head (by decide : isBlank '}' = false), after]
  | cons next entries =>
      simp only at moreSame
      subst moreSame
      simp only [List.length_cons, List.length_append] at enough
      have readRest := reads.entries next entries (before ++ [(key, value)])
        rest (by simpa [Value.isJsonEntries] using json.2)
        (by simpa using distinct) (by omega)
      obtain ⟨tail, headSame, -⟩ := renderEntries_head style next entries
      have skips : skip (renderEntries style (next :: entries) ++ rest) =
          renderEntries style (next :: entries) ++ rest := by
        rw [headSame, List.cons_append, skip_of_head (by decide)]
      simp only [List.cons_append, List.append_assoc,
        skip_of_head (by decide : isBlank ',' = false), after, if_true,
        skip_space, skips, readRest]
      simp

omit reads

/-- By induction on the fuel: each parser hands one less to the parsers of
the parts, and each part is written in fewer characters. -/
theorem readsBack (style : Style) (fuel : Nat) : ReadsBack style fuel := by
  induction fuel with
  | zero =>
      constructor
      · intro value rest _ _ enough
        obtain ⟨c, tail, head, -, -⟩ := render_head style value
        simp [head] at enough
      · intro item items rest _ enough
        obtain ⟨more, same⟩ := renderList_head style item items
        obtain ⟨c, tail, head, -, -⟩ := render_head style item
        simp [same, head] at enough
      · intro entry entries before rest _ _ enough
        obtain ⟨more, same, -⟩ := renderEntries_head style entry entries
        simp [same] at enough
  | succ fuel induction =>
      constructor
      · exact induction.value_succ
      · exact induction.items_succ
      · exact induction.entries_succ

variable (style)

/-- The text of a JSON value loads as the value with sorted keys. -/
theorem loads_render (value : Value) (json : value.isJson = true) :
    loads (render style value) = some value := by
  have skips := skip_render style value []
  have read := (readsBack style _).value value [] json endsNumber_nil
    (Nat.le_succ (render style value).length)
  rw [List.append_nil] at skips read
  unfold loads
  rw [skips, read]
  simp [skip]

end

end Json

/-! ## Sorted keys -/

namespace Value

theorem sortedEntries_eq_map (entries : List (String × Value)) :
    sortedEntries entries =
      entries.map fun entry => (entry.1, sorted entry.2) := by
  induction entries with
  | nil => rfl
  | cons entry rest ih => simp [sortedEntries, ih]

/-- Sorting by keys commutes with a change of the values. -/
theorem map_insertionSort (change : Value → Value)
    (entries : List (String × Value)) :
    (entries.insertionSort fun p q => p.1 ≤ q.1).map
        (fun entry => (entry.1, change entry.2)) =
      (entries.map fun entry => (entry.1, change entry.2)).insertionSort
        fun p q => p.1 ≤ q.1 :=
  List.map_insertionSort _ _ _ _ fun _ _ _ _ => Iff.rfl

theorem insertionSort_insertionSort (entries : List (String × Value)) :
    (entries.insertionSort fun p q => p.1 ≤ q.1).insertionSort
        (fun p q => p.1 ≤ q.1) =
      entries.insertionSort fun p q => p.1 ≤ q.1 := by
  have total : Std.Total fun p q : String × Value => p.1 ≤ q.1 :=
    ⟨fun p q => le_total p.1 q.1⟩
  have transitive : IsTrans (String × Value) fun p q => p.1 ≤ q.1 :=
    ⟨fun p q r => le_trans⟩
  exact (List.pairwise_insertionSort _ entries).insertionSort_eq

mutual

theorem sorted_sorted (value : Value) : value.sorted.sorted = value.sorted := by
  match value with
  | .list items => simp only [sorted, sortedList_sortedList items]
  | .dict entries =>
      have inner := sortedEntries_sortedEntries entries
      simp only [sorted]
      rw [sortedEntries_eq_map, map_insertionSort,
        ← sortedEntries_eq_map, inner, insertionSort_insertionSort]
  | .none | .bool _ | .int _ | .float _ | .str _ | .bytes _ => rfl

theorem sortedList_sortedList (items : List Value) :
    sortedList (sortedList items) = sortedList items := by
  match items with
  | [] => rfl
  | item :: rest =>
      simp only [sortedList, sorted_sorted item, sortedList_sortedList rest]

theorem sortedEntries_sortedEntries (entries : List (String × Value)) :
    sortedEntries (sortedEntries entries) = sortedEntries entries := by
  match entries with
  | [] => rfl
  | (key, value) :: rest =>
      simp only [sortedEntries, sorted_sorted value,
        sortedEntries_sortedEntries rest]

end

theorem keys_sortedEntries (entries : List (String × Value)) :
    (sortedEntries entries).map Prod.fst = entries.map Prod.fst := by
  simp [sortedEntries_eq_map, Function.comp_def]

theorem isJsonEntries_iff (entries : List (String × Value)) :
    isJsonEntries entries = true ↔
      ∀ entry ∈ entries, isJson entry.2 = true := by
  induction entries with
  | nil => simp [isJsonEntries]
  | cons entry rest ih => simp [isJsonEntries, ih]

mutual

theorem isJson_sorted (value : Value) (json : value.isJson = true) :
    value.sorted.isJson = true := by
  match value with
  | .list items => exact isJsonList_sorted items json
  | .dict entries =>
      simp only [isJson, Bool.and_eq_true, decide_eq_true_eq] at json
      have inner := isJsonEntries_sorted entries json.2
      rw [isJsonEntries_iff] at inner
      have permuted := List.perm_insertionSort
        (fun p q : String × Value => p.1 ≤ q.1) (sortedEntries entries)
      simp only [sorted, isJson, Bool.and_eq_true, decide_eq_true_eq]
      constructor
      · rw [(permuted.map Prod.fst).nodup_iff, keys_sortedEntries]
        exact json.1
      · rw [isJsonEntries_iff]
        intro entry member
        exact inner entry (permuted.mem_iff.mp member)
  | .none | .bool _ | .int _ | .float _ | .str _ | .bytes _ => exact json

theorem isJsonList_sorted (items : List Value)
    (json : isJsonList items = true) : isJsonList (sortedList items) = true := by
  match items with
  | [] => rfl
  | item :: rest =>
      simp only [isJsonList, Bool.and_eq_true] at json
      simp only [sortedList, isJsonList, Bool.and_eq_true]
      exact ⟨isJson_sorted item json.1, isJsonList_sorted rest json.2⟩

theorem isJsonEntries_sorted (entries : List (String × Value))
    (json : isJsonEntries entries = true) :
    isJsonEntries (sortedEntries entries) = true := by
  match entries with
  | [] => rfl
  | (key, value) :: rest =>
      simp only [isJsonEntries, Bool.and_eq_true] at json
      simp only [sortedEntries, isJsonEntries, Bool.and_eq_true]
      exact ⟨isJson_sorted value json.1, isJsonEntries_sorted rest json.2⟩

end

mutual

theorem hasBytes_of_isJson (value : Value) (json : value.isJson = true) :
    value.hasBytes = false := by
  match value with
  | .list items => exact hasBytesList_of_isJson items json
  | .dict entries =>
      simp only [isJson, Bool.and_eq_true] at json
      exact hasBytesEntries_of_isJson entries json.2
  | .bytes b => simp [isJson] at json
  | .none | .bool _ | .int _ | .float _ | .str _ => rfl

theorem hasBytesList_of_isJson (items : List Value)
    (json : isJsonList items = true) : hasBytesList items = false := by
  match items with
  | [] => rfl
  | item :: rest =>
      simp only [isJsonList, Bool.and_eq_true] at json
      simp only [hasBytesList, hasBytes_of_isJson item json.1,
        hasBytesList_of_isJson rest json.2, Bool.or_self]

theorem hasBytesEntries_of_isJson (entries : List (String × Value))
    (json : isJsonEntries entries = true) : hasBytesEntries entries = false := by
  match entries with
  | [] => rfl
  | (key, value) :: rest =>
      simp only [isJsonEntries, Bool.and_eq_true] at json
      simp only [hasBytesEntries, hasBytes_of_isJson value json.1,
        hasBytesEntries_of_isJson rest json.2, Bool.or_self]

end

mutual

theorem withText_of_noBytes (value : Value) (noBytes : value.hasBytes = false) :
    value.withText = value := by
  match value with
  | .none | .bool _ | .int _ | .float _ | .str _ => rfl
  | .bytes b => cases noBytes
  | .list items => simp only [withText, withTextList_of_noBytes items noBytes]
  | .dict entries =>
      simp only [withText, withTextEntries_of_noBytes entries noBytes]

theorem withTextList_of_noBytes (items : List Value)
    (noBytes : hasBytesList items = false) : withTextList items = items := by
  match items with
  | [] => rfl
  | item :: rest =>
      obtain ⟨head, tail⟩ := Bool.or_eq_false_iff.mp noBytes
      simp only [withTextList, withText_of_noBytes item head,
        withTextList_of_noBytes rest tail]

theorem withTextEntries_of_noBytes (entries : List (String × Value))
    (noBytes : hasBytesEntries entries = false) :
    withTextEntries entries = entries := by
  match entries with
  | [] => rfl
  | (key, value) :: rest =>
      obtain ⟨head, tail⟩ := Bool.or_eq_false_iff.mp noBytes
      simp only [withTextEntries, withText_of_noBytes value head,
        withTextEntries_of_noBytes rest tail]

end

mutual

/-- `default=str` leaves no byte string. -/
theorem hasBytes_withText (value : Value) : value.withText.hasBytes = false := by
  match value with
  | .none | .bool _ | .int _ | .float _ | .str _ | .bytes _ => rfl
  | .list items => exact hasBytesList_withText items
  | .dict entries => exact hasBytesEntries_withText entries

theorem hasBytesList_withText (items : List Value) :
    hasBytesList (withTextList items) = false := by
  match items with
  | [] => rfl
  | item :: rest =>
      simp only [withTextList, hasBytesList, hasBytes_withText item,
        hasBytesList_withText rest, Bool.or_self]

theorem hasBytesEntries_withText (entries : List (String × Value)) :
    hasBytesEntries (withTextEntries entries) = false := by
  match entries with
  | [] => rfl
  | (key, value) :: rest =>
      simp only [withTextEntries, hasBytesEntries, hasBytes_withText value,
        hasBytesEntries_withText rest, Bool.or_self]

end

theorem hasBytesEntries_eq_any (entries : List (String × Value)) :
    hasBytesEntries entries = entries.any fun entry => entry.2.hasBytes := by
  induction entries with
  | nil => rfl
  | cons entry rest ih => simp only [hasBytesEntries, List.any_cons, ih]

mutual

/-- Sorting the keys changes no byte string. -/
theorem hasBytes_sorted (value : Value) :
    value.sorted.hasBytes = value.hasBytes := by
  match value with
  | .none | .bool _ | .int _ | .float _ | .str _ | .bytes _ => rfl
  | .list items => simp only [sorted, hasBytes, hasBytesList_sorted items]
  | .dict entries =>
      have permuted := List.perm_insertionSort
        (fun p q : String × Value => p.1 ≤ q.1) (sortedEntries entries)
      rw [sorted, hasBytes, hasBytes, hasBytesEntries_eq_any,
        permuted.any_eq, ← hasBytesEntries_eq_any,
        hasBytesEntries_sorted entries]

theorem hasBytesList_sorted (items : List Value) :
    hasBytesList (sortedList items) = hasBytesList items := by
  match items with
  | [] => rfl
  | item :: rest =>
      simp only [sortedList, hasBytesList, hasBytes_sorted item,
        hasBytesList_sorted rest]

theorem hasBytesEntries_sorted (entries : List (String × Value)) :
    hasBytesEntries (sortedEntries entries) = hasBytesEntries entries := by
  match entries with
  | [] => rfl
  | (key, value) :: rest =>
      simp only [sortedEntries, hasBytesEntries, hasBytes_sorted value,
        hasBytesEntries_sorted rest]

end

/-- Equality with a dictionary asks for an equal value under every key. -/
theorem pyEqEntries_iff (entries others : List (String × Value)) :
    pyEqEntries entries others = true ↔
      ∀ entry ∈ entries, ∃ other,
        Entries.lookup others entry.1 = some other ∧
          pyEq entry.2 other = true := by
  induction entries with
  | nil => simp [pyEqEntries]
  | cons entry rest ih =>
      obtain ⟨key, value⟩ := entry
      cases found : Entries.lookup others key <;>
        simp [pyEqEntries, ih, found]

mutual

/-- Sorting the keys of a value without NaN leaves it equal. -/
theorem pyEq_sorted (value : Value) (json : value.isJson = true)
    (nanFree : value.isNanFree = true) : pyEq value.sorted value = true := by
  match value with
  | .none => rfl
  | .bool b => simp [sorted, pyEq, number?]
  | .int n => simp [sorted, pyEq, number?]
  | .float (.finite text) => simp [sorted, pyEq, number?, PyFloat.number?]
  | .float (.infinity negative) =>
      simp [sorted, pyEq, number?, PyFloat.number?]
  | .float .nan => simp [isNanFree] at nanFree
  | .str s => simp [sorted, pyEq]
  | .bytes b => simp [isJson] at json
  | .list items =>
      simp only [sorted, pyEq]
      exact pyEqList_sorted items json nanFree
  | .dict entries =>
      simp only [isJson, Bool.and_eq_true, decide_eq_true_eq] at json
      have inner := pyEqEntries_sorted entries json.2 nanFree
      have permuted := List.perm_insertionSort
        (fun p q : String × Value => p.1 ≤ q.1) (sortedEntries entries)
      simp only [sorted, pyEq, Bool.and_eq_true, beq_iff_eq, pyEqEntries_iff]
      constructor
      · rw [permuted.length_eq, sortedEntries_eq_map, List.length_map]
      · intro entry member
        rw [permuted.mem_iff, sortedEntries_eq_map, List.mem_map] at member
        obtain ⟨original, originalMember, rfl⟩ := member
        exact ⟨original.2, Entries.lookup_of_mem json.1 originalMember,
          inner original originalMember⟩

theorem pyEqList_sorted (items : List Value) (json : isJsonList items = true)
    (nanFree : isNanFreeList items = true) :
    pyEqList (sortedList items) items = true := by
  match items with
  | [] => rfl
  | item :: rest =>
      simp only [isJsonList, isNanFreeList, Bool.and_eq_true] at json nanFree
      simp only [sortedList, pyEqList, Bool.and_eq_true]
      exact ⟨pyEq_sorted item json.1 nanFree.1,
        pyEqList_sorted rest json.2 nanFree.2⟩

theorem pyEqEntries_sorted (entries : List (String × Value))
    (json : isJsonEntries entries = true)
    (nanFree : isNanFreeEntries entries = true) :
    ∀ entry ∈ entries, pyEq (sorted entry.2) entry.2 = true := by
  match entries with
  | [] => simp
  | (key, value) :: rest =>
      simp only [isJsonEntries, isNanFreeEntries, Bool.and_eq_true]
        at json nanFree
      intro entry member
      rcases List.mem_cons.mp member with rfl | later
      · exact pyEq_sorted value json.1 nanFree.1
      · exact pyEqEntries_sorted rest json.2 nanFree.2 entry later

end

end Value

namespace Json

theorem loads_dumps (style : Style) (value : Value)
    (json : value.isJson = true) :
    loads (dumps style value) = some value.sorted :=
  loads_render style value.sorted (Value.isJson_sorted value json)

end Json

end Python
