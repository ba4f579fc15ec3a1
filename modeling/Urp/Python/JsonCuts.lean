import Mathlib.Data.List.DropRight
import Mathlib.Data.List.TakeWhile
import Urp.Python.JsonRoundTrip

/-!
# Cut JSON texts

A parser that has read a value goes the same way on a longer text, as long as
what it left could not extend the value.  So neither a proper beginning of a
written object loads, nor an object with something behind it.
-/

namespace Python

namespace Json

variable {text rest tail : List Char}

/-! ## Words and strings -/

theorem eq_of_after {word : List Char} (found : after word text = some rest) :
    text = word ++ rest := by
  induction word generalizing text with
  | nil =>
      cases found
      rfl
  | cons c word ih =>
      cases text with
      | nil => cases found
      | cons d text =>
          unfold after at found
          split at found
          · rename_i same
            rw [same, ih found, List.cons_append]
          · cases found

theorem after_longer {word : List Char} (found : after word text = some rest)
    (tail : List Char) : after word (text ++ tail) = some (rest ++ tail) := by
  rw [eq_of_after found, List.append_assoc, after_append]

theorem after_char_longer {c : Char} (missing : after [c] text = none)
    (nonempty : text ≠ []) (tail : List Char) :
    after [c] (text ++ tail) = none := by
  cases text with
  | nil => exact absurd rfl nonempty
  | cons d text =>
      apply after_ne
      rintro rfl
      rw [after, if_pos rfl, after] at missing
      cases missing

theorem skip_longer (nonempty : skip text ≠ []) (tail : List Char) :
    skip (text ++ tail) = skip text ++ tail := by
  unfold skip at nonempty ⊢
  rw [List.dropWhile_append, if_neg (by simpa using nonempty)]

theorem parseHex_longer {n : Nat} (parsed : parseHex text = some (n, rest))
    (tail : List Char) :
    parseHex (text ++ tail) = some (n, rest ++ tail) := by
  match text with
  | [] | [_] | [_, _] | [_, _, _] => cases parsed
  | p :: q :: r :: s :: text =>
      simp only [parseHex, Option.bind_eq_bind, Option.bind_eq_some_iff,
        Option.some.injEq, Prod.mk.injEq] at parsed
      obtain ⟨p', hp, q', hq, r', hr, s', hs, number, rfl⟩ := parsed
      simp only [List.cons_append, parseHex, hp, hq, hr, hs,
        Option.bind_eq_bind, Option.bind_some, number]

theorem parseUnicode_longer {c : Char}
    (parsed : parseUnicode text = some (c, rest)) (tail : List Char) :
    parseUnicode (text ++ tail) = some (c, rest ++ tail) := by
  unfold parseUnicode at parsed ⊢
  simp only [Option.bind_eq_bind, Option.bind_eq_some_iff] at parsed
  obtain ⟨⟨high, later⟩, first, parsed⟩ := parsed
  simp only [parseHex_longer first, Option.bind_eq_bind, Option.bind_some]
  split at parsed
  · rename_i isHigh
    simp only [Option.bind_eq_some_iff] at parsed
    obtain ⟨escaped, marked, ⟨low, last⟩, second, parsed⟩ := parsed
    simp only [isHigh, if_true, after_longer marked, Option.bind_some,
      parseHex_longer second]
    by_cases isLow : isLowSurrogate low = true
    · simp only [isLow, if_true, Option.some.injEq, Prod.mk.injEq]
        at parsed ⊢
      exact ⟨parsed.1, by rw [parsed.2]⟩
    · simp only [isLow] at parsed
      cases parsed
  · rename_i notHigh
    simp only [notHigh, Bool.false_eq_true, if_false]
    by_cases isLow : isLowSurrogate high = true
    · simp only [isLow, if_true] at parsed
      cases parsed
    · simp only [isLow, Bool.false_eq_true, if_false, Option.some.injEq,
        Prod.mk.injEq] at parsed ⊢
      exact ⟨parsed.1, by rw [parsed.2]⟩

theorem parseChar_longer {c : Char} (parsed : parseChar text = some (c, rest))
    (tail : List Char) :
    parseChar (text ++ tail) = some (c, rest ++ tail) := by
  cases text with
  | nil => cases parsed
  | cons d text =>
      rw [List.cons_append]
      simp only [parseChar] at parsed ⊢
      by_cases escape : d = '\\'
      · rw [if_pos escape] at parsed ⊢
        cases text with
        | nil => cases parsed
        | cons e text =>
            simp only [List.cons_append] at parsed ⊢
            by_cases unicode : e = 'u'
            · rw [if_pos unicode] at parsed ⊢
              exact parseUnicode_longer parsed tail
            · rw [if_neg unicode] at parsed ⊢
              obtain ⟨simple, found, same⟩ := Option.map_eq_some_iff.mp parsed
              cases same
              rw [found, Option.map_some]
      · rw [if_neg escape] at parsed ⊢
        by_cases control : d.toNat < 32
        · rw [if_pos control] at parsed
          cases parsed
        · rw [if_neg control] at parsed ⊢
          cases parsed
          rfl

theorem parseString_longer {fuel more : Nat} {body : List Char}
    (parsed : parseString fuel text = some (body, rest)) (enough : fuel ≤ more)
    (tail : List Char) :
    parseString more (text ++ tail) = some (body, rest ++ tail) := by
  induction fuel generalizing more text body with
  | zero => cases parsed
  | succ fuel ih =>
      obtain ⟨less, rfl⟩ : ∃ less, more = less + 1 := ⟨more - 1, by omega⟩
      rw [parseString] at parsed ⊢
      cases closed : after ['"'] text with
      | some found =>
          rw [closed] at parsed
          cases parsed
          rw [after_longer closed]
      | none =>
          rw [closed] at parsed
          dsimp only at parsed
          cases first : parseChar text with
          | none =>
              rw [first] at parsed
              cases parsed
          | some read =>
              obtain ⟨c, later⟩ := read
              rw [first] at parsed
              obtain ⟨⟨chars, left⟩, found, same⟩ :=
                Option.map_eq_some_iff.mp parsed
              cases same
              have nonempty : text ≠ [] := by
                rintro rfl
                cases first
              rw [after_char_longer closed nonempty]
              have read := @ih _ less _ found (by omega)
              simp only [parseChar_longer first, read, Option.map_some]

/-! ## Numbers -/

/-- Something follows, and it cannot extend a number. -/
def Stops (rest : List Char) : Prop := rest ≠ [] ∧ EndsNumber rest

theorem spanDigits_longer {digits : List Char}
    (span : spanDigits text = (digits, rest)) (nonempty : rest ≠ [])
    (tail : List Char) : spanDigits (text ++ tail) = (digits, rest ++ tail) := by
  unfold spanDigits at span
  obtain ⟨rfl, rfl⟩ := Prod.mk.inj span
  have ends : ∀ c later, text.dropWhile Char.isDigit ++ tail = c :: later →
      c.isDigit = false := by
    intro c later same
    cases left : text.dropWhile Char.isDigit with
    | nil => exact absurd left nonempty
    | cons d others =>
        rw [left, List.cons_append] at same
        cases same
        have stopped := List.head_dropWhile_not Char.isDigit nonempty
        simpa [left] using stopped
  have digits : ∀ c ∈ text.takeWhile Char.isDigit, c.isDigit = true :=
    fun c member => List.mem_takeWhile_imp member
  have whole := spanDigits_append digits ends
  rwa [← List.append_assoc, List.takeWhile_append_dropWhile] at whole

theorem parseSign_longer {negative : Bool}
    (signed : parseSign text = (negative, rest)) (nonempty : rest ≠ [])
    (tail : List Char) : parseSign (text ++ tail) = (negative, rest ++ tail) := by
  unfold parseSign at signed ⊢
  cases minus : after ['-'] text with
  | some found =>
      rw [minus] at signed
      cases signed
      rw [after_longer minus]
  | none =>
      rw [minus] at signed
      cases signed
      rw [after_char_longer minus nonempty]

theorem parseWhole_longer {n : Nat} (parsed : parseWhole text = some (n, rest))
    (nonempty : rest ≠ []) (tail : List Char) :
    parseWhole (text ++ tail) = some (n, rest ++ tail) := by
  unfold parseWhole at parsed ⊢
  cases zero : after ['0'] text with
  | some found =>
      rw [zero] at parsed
      cases parsed
      rw [after_longer zero]
  | none =>
      rw [zero] at parsed
      rcases span : spanDigits text with ⟨_ | ⟨lead, digits⟩, left⟩
      · simp [span] at parsed
      · simp only [span, Option.some.injEq, Prod.mk.injEq] at parsed
        obtain ⟨rfl, rfl⟩ := parsed
        have textNonempty : text ≠ [] := by
          rintro rfl
          cases span
        rw [after_char_longer zero textNonempty]
        simp only [spanDigits_longer span nonempty]

theorem parseFraction_longer {fraction : List (Fin 10)}
    (parsed : parseFraction text = (fraction, rest)) (nonempty : rest ≠ [])
    (notDot : ∀ c left, rest = c :: left → c ≠ '.') (tail : List Char) :
    parseFraction (text ++ tail) = (fraction, rest ++ tail) := by
  unfold parseFraction at parsed ⊢
  cases dot : after ['.'] text with
  | none =>
      rw [dot] at parsed
      cases parsed
      rw [after_char_longer dot nonempty]
  | some found =>
      rw [dot] at parsed
      rcases span : spanDigits found with ⟨_ | ⟨lead, digits⟩, left⟩
      · simp only [span] at parsed
        cases parsed
        exact absurd rfl (notDot '.' found (eq_of_after dot))
      · simp only [span, Prod.mk.injEq] at parsed
        obtain ⟨rfl, rfl⟩ := parsed
        rw [after_longer dot]
        simp only [spanDigits_longer span nonempty]

/-- The sign of an exponent and the text of its digits. -/
def exponentSign (text : List Char) : Bool × List Char :=
  match after ['+'] text with
  | some rest => (false, rest)
  | none => parseSign text

theorem exponentSign_longer {negative : Bool}
    (signed : exponentSign text = (negative, rest)) (nonempty : rest ≠ [])
    (tail : List Char) :
    exponentSign (text ++ tail) = (negative, rest ++ tail) := by
  unfold exponentSign at signed ⊢
  cases plus : after ['+'] text with
  | some found =>
      rw [plus] at signed
      cases signed
      rw [after_longer plus]
  | none =>
      rw [plus] at signed
      have textNonempty : text ≠ [] := by
        rintro rfl
        cases signed
        exact nonempty rfl
      rw [after_char_longer plus textNonempty]
      exact parseSign_longer signed nonempty tail

theorem parseExponent_cons {e : Char} (marked : e = 'e' ∨ e = 'E')
    (text : List Char) :
    parseExponent (e :: text) =
      match spanDigits (exponentSign text).2 with
      | ([], _) => (none, e :: text)
      | (lead :: digits, rest) =>
          (some ⟨(exponentSign text).1, digitOf lead, digits.map digitOf⟩,
            rest) := by
  rw [parseExponent, if_pos marked]
  rfl

theorem parseExponent_longer {exponent : Option Exponent}
    (parsed : parseExponent text = (exponent, rest)) (stops : Stops rest)
    (tail : List Char) :
    parseExponent (text ++ tail) = (exponent, rest ++ tail) := by
  obtain ⟨nonempty, ends⟩ := stops
  cases text with
  | nil =>
      cases parsed
      exact absurd rfl nonempty
  | cons e text =>
      rw [List.cons_append]
      by_cases marked : e = 'e' ∨ e = 'E'
      · rw [parseExponent_cons marked] at parsed ⊢
        rcases signed : exponentSign text with ⟨negative, digits⟩
        rw [signed] at parsed
        rcases span : spanDigits digits with ⟨_ | ⟨lead, others⟩, left⟩
        · simp only [span] at parsed
          cases parsed
          have head := ends e text rfl
          rcases marked with rfl | rfl
          · exact absurd rfl head.2.2.1
          · exact absurd rfl head.2.2.2
        · simp only [span, Prod.mk.injEq] at parsed
          obtain ⟨rfl, rfl⟩ := parsed
          have digitsNonempty : digits ≠ [] := by
            rintro rfl
            cases span
          rw [exponentSign_longer signed digitsNonempty]
          simp only [spanDigits_longer span nonempty]
      · rw [parseExponent, if_neg marked] at parsed ⊢
        cases parsed
        rfl

/-- The exponent leaves what it read from, or begins with its mark. -/
theorem parseExponent_head {exponent : Option Exponent}
    (parsed : parseExponent text = (exponent, rest)) (stops : Stops rest) :
    text ≠ [] ∧ ∀ c left, text = c :: left → c ≠ '.' := by
  cases text with
  | nil =>
      cases parsed
      exact absurd rfl stops.1
  | cons e text =>
      refine ⟨List.cons_ne_nil _ _, ?_⟩
      intro c left same
      cases same
      by_cases marked : e = 'e' ∨ e = 'E'
      · rcases marked with rfl | rfl <;> decide
      · rw [parseExponent, if_neg marked] at parsed
        cases parsed
        exact (stops.2 e text rfl).2.1

theorem parseFraction_nonempty {fraction : List (Fin 10)}
    (parsed : parseFraction text = (fraction, rest)) (nonempty : rest ≠ []) :
    text ≠ [] := by
  rintro rfl
  cases parsed
  exact nonempty rfl

theorem parseWhole_head {n : Nat} (parsed : parseWhole text = some (n, rest)) :
    ∃ d left, d.isDigit = true ∧ text = d :: left := by
  unfold parseWhole at parsed
  cases zero : after ['0'] text with
  | some found => exact ⟨'0', found, by decide, eq_of_after zero⟩
  | none =>
      rw [zero] at parsed
      rcases span : spanDigits text with ⟨_ | ⟨lead, digits⟩, left⟩
      · simp [span] at parsed
      · have taken : text.takeWhile Char.isDigit = lead :: digits :=
          (Prod.mk.inj span).1
        have isDigit : lead.isDigit = true := by
          have member : lead ∈ text.takeWhile Char.isDigit := by
            rw [taken]
            exact List.mem_cons_self
          exact List.mem_takeWhile_imp member
        have split := List.takeWhile_append_dropWhile (p := Char.isDigit)
          (l := text)
        rw [taken] at split
        exact ⟨lead, _, isDigit, split.symm⟩

theorem parseSign_head {negative : Bool}
    (signed : parseSign text = (negative, rest))
    {d : Char} {left : List Char} (head : rest = d :: left)
    (isDigit : d.isDigit = true) : StartsNumber text := by
  unfold parseSign at signed
  cases minus : after ['-'] text with
  | some found =>
      rw [minus] at signed
      cases signed
      exact ⟨d, left, isDigit, .inr (by rw [eq_of_after minus, head]; rfl)⟩
  | none =>
      rw [minus] at signed
      cases signed
      exact ⟨d, left, isDigit, .inl head⟩

/-- A number that something ends is read from a longer text as well. -/
theorem parseNumber_longer {value : Value}
    (parsed : parseNumber text = some (value, rest)) (stops : Stops rest)
    (tail : List Char) :
    StartsNumber text ∧
      parseNumber (text ++ tail) = some (value, rest ++ tail) := by
  unfold parseNumber at parsed ⊢
  rcases signed : parseSign text with ⟨negative, wholeText⟩
  rcases whole : parseWhole wholeText with _ | ⟨n, fractionText⟩
  · simp [signed, whole] at parsed
  · rcases fractional : parseFraction fractionText with ⟨fraction, exponentText⟩
    rcases exponential : parseExponent exponentText with ⟨exponent, left⟩
    simp only [signed, whole, fractional, exponential] at parsed
    have same : left = rest := by
      split at parsed <;>
        exact (Prod.mk.inj (Option.some.inj parsed)).2
    subst same
    obtain ⟨exponentNonempty, notDot⟩ := parseExponent_head exponential stops
    have fractionNonempty :=
      parseFraction_nonempty fractional exponentNonempty
    obtain ⟨d, others, isDigit, head⟩ := parseWhole_head whole
    have wholeNonempty : wholeText ≠ [] := by
      rw [head]
      exact List.cons_ne_nil _ _
    refine ⟨parseSign_head signed head isDigit, ?_⟩
    simp only [parseSign_longer signed wholeNonempty,
      parseWhole_longer whole fractionNonempty,
      parseFraction_longer fractional exponentNonempty notDot,
      parseExponent_longer exponential stops]
    split at parsed
    · rename_i marked
      rw [dif_pos marked]
      cases parsed
      rfl
    · rename_i unmarked
      rw [dif_neg unmarked]
      cases parsed
      rfl

/-! ## Values -/

theorem startsNumber_longer (number : StartsNumber text) (tail : List Char) :
    StartsNumber (text ++ tail) := by
  obtain ⟨d, left, isDigit, rfl | rfl⟩ := number
  · exact ⟨d, left ++ tail, isDigit, .inl rfl⟩
  · exact ⟨d, left ++ tail, isDigit, .inr rfl⟩

theorem mem_of_parseLiteral {words : List (List Char × Value)} {value : Value}
    (parsed : parseLiteral text words = some (value, rest)) :
    ∃ word, (word, value) ∈ words ∧ text = word ++ rest := by
  induction words with
  | nil => cases parsed
  | cons entry others ih =>
      obtain ⟨word, meaning⟩ := entry
      unfold parseLiteral at parsed
      cases found : after word text with
      | some left =>
          rw [found] at parsed
          cases parsed
          exact ⟨word, List.mem_cons_self, eq_of_after found⟩
      | none =>
          rw [found] at parsed
          obtain ⟨other, member, same⟩ := ih parsed
          exact ⟨other, List.mem_cons_of_mem _ member, same⟩

/-- The literals begin with different characters. -/
theorem parseLiteral_longer {value : Value}
    (parsed : parseLiteral text literals = some (value, rest))
    (tail : List Char) :
    parseLiteral (text ++ tail) literals = some (value, rest ++ tail) := by
  obtain ⟨word, member, rfl⟩ := mem_of_parseLiteral parsed
  rw [List.append_assoc]
  simp only [literals, List.mem_cons, Prod.mk.injEq, List.not_mem_nil,
    or_false] at member
  rcases member with ⟨rfl, rfl⟩ | ⟨rfl, rfl⟩ | ⟨rfl, rfl⟩ | ⟨rfl, rfl⟩ |
    ⟨rfl, rfl⟩ | ⟨rfl, rfl⟩ <;> rfl

/-- What a comma, a colon or a bracket follows cannot be extended. -/
theorem stops_of_after {c : Char} (found : after [c] (skip rest) = some text)
    (ends : c.isDigit = false ∧ c ≠ '.' ∧ c ≠ 'e' ∧ c ≠ 'E') : Stops rest := by
  cases rest with
  | nil => cases found
  | cons d left =>
      refine ⟨List.cons_ne_nil _ _, ?_⟩
      intro e others same
      cases same
      by_cases blank : isBlank d = true
      · simp only [isBlank, Bool.or_eq_true, decide_eq_true_eq] at blank
        rcases blank with ((rfl | rfl) | rfl) | rfl <;> decide
      · rw [skip_of_head (by simpa using blank)] at found
        cases eq_of_after found
        exact ends

theorem skip_after_longer {c : Char}
    (found : after [c] (skip rest) = some text) (tail : List Char) :
    after [c] (skip (rest ++ tail)) = some (text ++ tail) := by
  have nonempty : skip rest ≠ [] := by
    rw [eq_of_after found]
    exact List.cons_ne_nil _ _
  rw [skip_longer nonempty, after_longer found]

theorem skip_after_none_longer {c : Char}
    (missing : after [c] (skip rest) = none) (nonempty : skip rest ≠ [])
    (tail : List Char) : after [c] (skip (rest ++ tail)) = none := by
  rw [skip_longer nonempty, after_char_longer missing nonempty]

theorem parseValue_nil (fuel : Nat) : parseValue fuel [] = none := by
  cases fuel <;> rfl

theorem parseItems_nil (fuel : Nat) : parseItems fuel [] = none := by
  cases fuel with
  | zero => rfl
  | succ fuel => rw [parseItems, parseValue_nil]

theorem parseEntries_nil (fuel : Nat) (before : List (String × Value)) :
    parseEntries fuel [] before = none := by
  cases fuel <;> rfl

/-- What every parser reads with the given fuel it reads from a longer text as
well; a value needs something behind it that ends it. -/
structure ReadsOn (fuel : Nat) : Prop where
  value : ∀ {more : Nat} {text rest : List Char} {value : Value},
    parseValue fuel text = some (value, rest) → fuel ≤ more → Stops rest →
    ∀ tail, parseValue more (text ++ tail) = some (value, rest ++ tail)
  items : ∀ {more : Nat} {text rest : List Char} {items : List Value},
    parseItems fuel text = some (items, rest) → fuel ≤ more →
    ∀ tail, parseItems more (text ++ tail) = some (items, rest ++ tail)
  entries : ∀ {more : Nat} {text rest : List Char}
    {before entries : List (String × Value)},
    parseEntries fuel text before = some (entries, rest) → fuel ≤ more →
    ∀ tail, parseEntries more (text ++ tail) before =
      some (entries, rest ++ tail)

section Reads

variable {fuel more : Nat} (reads : ReadsOn fuel)

include reads

/-- The text of an object ends by itself. -/
theorem ReadsOn.object {value : Value}
    (parsed : parseValue (fuel + 1) ('{' :: text) = some (value, rest))
    (enough : fuel ≤ more) (tail : List Char) :
    parseValue (more + 1) ('{' :: text ++ tail) =
      some (value, rest ++ tail) := by
  rw [List.cons_append]
  rw [parseValue, if_neg (by decide), if_neg (by decide), if_pos rfl]
    at parsed ⊢
  cases closed : after ['}'] (skip text) with
  | some found =>
      rw [closed] at parsed
      cases parsed
      rw [skip_after_longer closed]
  | none =>
      rw [closed] at parsed
      obtain ⟨⟨entries, left⟩, found, same⟩ :=
        Option.map_eq_some_iff.mp parsed
      cases same
      have nonempty : skip text ≠ [] := by
        intro empty
        rw [empty, parseEntries_nil] at found
        cases found
      rw [skip_after_none_longer closed nonempty, skip_longer nonempty]
      simp only [reads.entries found enough, Option.map_some]

theorem ReadsOn.array {value : Value}
    (parsed : parseValue (fuel + 1) ('[' :: text) = some (value, rest))
    (enough : fuel ≤ more) (tail : List Char) :
    parseValue (more + 1) ('[' :: text ++ tail) =
      some (value, rest ++ tail) := by
  rw [List.cons_append]
  rw [parseValue, if_neg (by decide), if_pos rfl] at parsed ⊢
  cases closed : after [']'] (skip text) with
  | some found =>
      rw [closed] at parsed
      cases parsed
      rw [skip_after_longer closed]
  | none =>
      rw [closed] at parsed
      obtain ⟨⟨items, left⟩, found, same⟩ := Option.map_eq_some_iff.mp parsed
      cases same
      have nonempty : skip text ≠ [] := by
        intro empty
        rw [empty, parseItems_nil] at found
        cases found
      rw [skip_after_none_longer closed nonempty, skip_longer nonempty]
      simp only [reads.items found enough, Option.map_some]

theorem ReadsOn.value_succ {value : Value}
    (parsed : parseValue (fuel + 1) text = some (value, rest))
    (enough : fuel ≤ more) (stops : Stops rest) (tail : List Char) :
    parseValue (more + 1) (text ++ tail) = some (value, rest ++ tail) := by
  cases text with
  | nil => cases parsed
  | cons c text =>
      by_cases quote : c = '"'
      · subst quote
        rw [List.cons_append]
        rw [parseValue, if_pos rfl] at parsed ⊢
        obtain ⟨⟨chars, left⟩, found, same⟩ :=
          Option.map_eq_some_iff.mp parsed
        cases same
        have read := @parseString_longer text left _
          (text ++ tail).length _ found (by simp) tail
        simp only [read, Option.map_some]
      · by_cases bracket : c = '['
        · subst bracket
          exact reads.array parsed enough tail
        · by_cases brace : c = '{'
          · subst brace
            exact reads.object parsed enough tail
          · rw [List.cons_append]
            rw [parseValue, if_neg quote, if_neg bracket, if_neg brace]
              at parsed ⊢
            rw [← List.cons_append]
            cases literal : parseLiteral (c :: text) literals with
            | some found =>
                rw [literal] at parsed
                cases parsed
                rw [parseLiteral_longer literal]
            | none =>
                rw [literal] at parsed
                obtain ⟨number, read⟩ := parseNumber_longer parsed stops tail
                rw [parseLiteral_number (startsNumber_longer number tail)]
                exact read

theorem ReadsOn.items_succ {items : List Value}
    (parsed : parseItems (fuel + 1) text = some (items, rest))
    (enough : fuel ≤ more) (tail : List Char) :
    parseItems (more + 1) (text ++ tail) = some (items, rest ++ tail) := by
  rw [parseItems] at parsed ⊢
  rcases first : parseValue fuel text with _ | ⟨item, left⟩
  · rw [first] at parsed
    cases parsed
  · rw [first] at parsed
    dsimp only at parsed
    cases comma : after [','] (skip left) with
    | some found =>
        rw [comma] at parsed
        obtain ⟨⟨others, last⟩, later, same⟩ :=
          Option.map_eq_some_iff.mp parsed
        cases same
        have read := reads.value first enough
          (stops_of_after comma (by decide)) tail
        have nonempty : skip found ≠ [] := by
          intro empty
          rw [empty, parseItems_nil] at later
          cases later
        simp only [read, skip_after_longer comma, skip_longer nonempty,
          reads.items later enough, Option.map_some]
    | none =>
        rw [comma] at parsed
        obtain ⟨found, closed, same⟩ := Option.map_eq_some_iff.mp parsed
        cases same
        have read := reads.value first enough
          (stops_of_after closed (by decide)) tail
        have nonempty : skip left ≠ [] := by
          intro empty
          rw [empty] at closed
          cases closed
        simp only [read, skip_after_none_longer comma nonempty,
          skip_after_longer closed, Option.map_some]

theorem ReadsOn.entries_succ {before entries : List (String × Value)}
    (parsed : parseEntries (fuel + 1) text before = some (entries, rest))
    (enough : fuel ≤ more) (tail : List Char) :
    parseEntries (more + 1) (text ++ tail) before =
      some (entries, rest ++ tail) := by
  rw [parseEntries] at parsed ⊢
  cases quote : after ['"'] text with
  | none =>
      rw [quote] at parsed
      cases parsed
  | some keyText =>
      rw [quote] at parsed
      dsimp only at parsed
      rcases named : parseString keyText.length keyText with _ | ⟨key, left⟩
      · rw [named] at parsed
        cases parsed
      · rw [named] at parsed
        dsimp only at parsed
        have readKey := @parseString_longer keyText left _
          (keyText ++ tail).length _ named (by simp) tail
        cases colon : after [':'] (skip left) with
        | none =>
            rw [colon] at parsed
            cases parsed
        | some valueText =>
            rw [colon] at parsed
            dsimp only at parsed
            rcases meant : parseValue fuel (skip valueText) with _ | ⟨value, last⟩
            · rw [meant] at parsed
              cases parsed
            · rw [meant] at parsed
              dsimp only at parsed
              have nonempty : skip valueText ≠ [] := by
                intro empty
                rw [empty, parseValue_nil] at meant
                cases meant
              simp only [after_longer quote, readKey, skip_after_longer colon,
                skip_longer nonempty]
              cases comma : after [','] (skip last) with
              | some found =>
                  rw [comma] at parsed
                  dsimp only at parsed
                  have read := reads.value meant enough
                    (stops_of_after comma (by decide)) tail
                  have more : skip found ≠ [] := by
                    intro empty
                    rw [empty, parseEntries_nil] at parsed
                    cases parsed
                  simp only [read, skip_after_longer comma, skip_longer more]
                  exact reads.entries parsed enough tail
              | none =>
                  rw [comma] at parsed
                  obtain ⟨found, closed, same⟩ :=
                    Option.map_eq_some_iff.mp parsed
                  cases same
                  have read := reads.value meant enough
                    (stops_of_after closed (by decide)) tail
                  have some : skip last ≠ [] := by
                    intro empty
                    rw [empty] at closed
                    cases closed
                  simp only [read, skip_after_none_longer comma some,
                    skip_after_longer closed, Option.map_some]

end Reads

/-- By induction on the fuel, as the parsers call each other. -/
theorem readsOn (fuel : Nat) : ReadsOn fuel := by
  induction fuel with
  | zero => exact ⟨nofun, nofun, nofun⟩
  | succ fuel induction =>
      constructor
      · intro more text rest value parsed enough stops tail
        obtain ⟨less, rfl⟩ : ∃ less, more = less + 1 := ⟨more - 1, by omega⟩
        exact induction.value_succ parsed (by omega) stops tail
      · intro more text rest items parsed enough tail
        obtain ⟨less, rfl⟩ : ∃ less, more = less + 1 := ⟨more - 1, by omega⟩
        exact induction.items_succ parsed (by omega) tail
      · intro more text rest before entries parsed enough tail
        obtain ⟨less, rfl⟩ : ∃ less, more = less + 1 := ⟨more - 1, by omega⟩
        exact induction.entries_succ parsed (by omega) tail

/-! ## White space around a text -/

section Surroundings

variable {before ending : List Char}

/-- `text.strip(" \t\n\r")`. -/
def trim (text : List Char) : List Char := (skip text).rdropWhile isBlank

/-- What `trim` leaves out is blank. -/
theorem exists_trim (text : List Char) :
    ∃ before ending, text = before ++ trim text ++ ending ∧
      (∀ c ∈ before, isBlank c = true) ∧ ∀ c ∈ ending, isBlank c = true := by
  refine ⟨text.takeWhile isBlank, (skip text).rtakeWhile isBlank, ?_, ?_, ?_⟩
  · rw [trim, List.append_assoc, List.rdropWhile_append_rtakeWhile, skip,
      List.takeWhile_append_dropWhile]
  · intro c member
    exact List.mem_takeWhile_imp member
  · intro c member
    exact List.mem_rtakeWhile_imp member

theorem skip_eq_nil_iff : skip text = [] ↔ ∀ c ∈ text, isBlank c = true := by
  rw [skip, List.dropWhile_eq_nil_iff]

theorem skip_append_of_blank (blank : ∀ c ∈ before, isBlank c = true)
    (text : List Char) : skip (before ++ text) = skip text := by
  have none : before.dropWhile isBlank = [] :=
    List.dropWhile_eq_nil_iff.mpr blank
  rw [skip, List.dropWhile_append, none]
  rfl

theorem loads_eq_some_iff {value : Value} :
    loads text = some value ↔ ∃ rest,
      parseValue (text.length + 1) (skip text) = some (value, rest) ∧
        ∀ c ∈ rest, isBlank c = true := by
  unfold loads
  rcases parsed : parseValue (text.length + 1) (skip text) with _ | ⟨read, rest⟩
  · simp
  · simp only [← skip_eq_nil_iff]
    split <;> simp_all

/-- White space around the text of an object does not matter. -/
theorem loads_surrounded {value : Value}
    (loaded : loads ('{' :: text) = some value)
    (early : ∀ c ∈ before, isBlank c = true)
    (late : ∀ c ∈ ending, isBlank c = true) :
    loads (before ++ '{' :: text ++ ending) = some value := by
  obtain ⟨rest, parsed, blank⟩ := loads_eq_some_iff.mp loaded
  rw [skip_of_head (by decide)] at parsed
  rw [loads_eq_some_iff]
  refine ⟨rest ++ ending, ?_, ?_⟩
  · rw [List.append_assoc, skip_append_of_blank early, List.cons_append,
      skip_of_head (by decide), ← List.cons_append]
    exact (readsOn _).object parsed (by simp; omega) ending
  · intro c member
    exact (List.mem_append.mp member).elim (blank c) (late c)

/-- A beginning of an object's text that leaves out more than white space does
not load. -/
theorem loads_cut {value : Value} {c : Char}
    (loaded : loads ('{' :: text ++ tail) = some value)
    (early : ∀ c ∈ before, isBlank c = true) (member : c ∈ tail)
    (visible : isBlank c = false) : loads (before ++ '{' :: text) = none := by
  rw [Option.eq_none_iff_forall_ne_some]
  intro other cut
  obtain ⟨left, short, -⟩ := loads_eq_some_iff.mp cut
  obtain ⟨rest, long, blank⟩ := loads_eq_some_iff.mp loaded
  rw [skip_append_of_blank early, skip_of_head (by decide)] at short
  rw [List.cons_append, skip_of_head (by decide)] at long
  let more := max (before ++ '{' :: text).length ('{' :: text ++ tail).length
  have first := (readsOn _).object short (le_max_left _ _ : _ ≤ more) tail
  have second := (readsOn _).object long (le_max_right _ _ : _ ≤ more) []
  rw [List.append_nil, List.append_nil, ← List.cons_append, first] at second
  have same : left ++ tail = rest := (Prod.mk.inj (Option.some.inj second)).2
  rw [← same] at blank
  rw [blank c (List.mem_append_right _ member)] at visible
  cases visible

/-- Only a brace begins the text of an object. -/
theorem parseLiteral_ne_dict {data : List (String × Value)} :
    parseLiteral text literals ≠ some (.dict data, rest) := by
  intro parsed
  obtain ⟨word, member, -⟩ := mem_of_parseLiteral parsed
  simp [literals] at member

theorem parseNumber_ne_dict {data : List (String × Value)} :
    parseNumber text ≠ some (.dict data, rest) := by
  intro parsed
  unfold parseNumber at parsed
  dsimp only at parsed
  split at parsed
  · cases parsed
  · split at parsed <;> cases parsed

theorem eq_brace_of_parseValue {fuel : Nat} {data : List (String × Value)}
    (parsed : parseValue fuel text = some (.dict data, rest)) :
    ∃ body, text = '{' :: body := by
  cases fuel with
  | zero => cases parsed
  | succ fuel =>
      cases text with
      | nil => cases parsed
      | cons c body =>
          rw [parseValue] at parsed
          split at parsed
          · obtain ⟨_, -, other⟩ := Option.map_eq_some_iff.mp parsed
            cases other
          · split at parsed
            · split at parsed
              · cases parsed
              · obtain ⟨_, -, other⟩ := Option.map_eq_some_iff.mp parsed
                cases other
            · split at parsed
              · rename_i brace
                exact ⟨body, by rw [brace]⟩
              · split at parsed
                · rename_i found literal
                  cases parsed
                  exact absurd literal parseLiteral_ne_dict
                · exact absurd parsed parseNumber_ne_dict

/-- A trimmed text begins and ends visibly. -/
theorem skip_trim (text : List Char) : skip (trim text) = trim text := by
  cases trimmed : trim text with
  | nil => rfl
  | cons c body =>
      obtain ⟨more, whole⟩ := List.rdropWhile_prefix isBlank (skip text)
      rw [← trim, trimmed, List.cons_append] at whole
      have some : skip text ≠ [] := by simp [← whole]
      have first := List.head_dropWhile_not isBlank some
      change isBlank ((skip text).head some) = false at first
      simp only [← whole, List.head_cons] at first
      exact skip_of_head first body

theorem getLast_trim (some : trim text ≠ []) :
    isBlank ((trim text).getLast some) = false := by
  have last := List.rdropWhile_last_not isBlank (skip text) some
  simpa [trim] using last

theorem trim_eq_brace {data : List (String × Value)}
    (loaded : loads (trim text) = some (.dict data)) :
    ∃ body, trim text = '{' :: body := by
  obtain ⟨rest, parsed, -⟩ := loads_eq_some_iff.mp loaded
  rw [skip_trim] at parsed
  exact eq_brace_of_parseValue parsed

/-- A text that begins and ends visibly has nothing to trim. -/
theorem trim_visible {c d : Char} (first : isBlank c = false)
    (last : isBlank d = false) (body : List Char) :
    trim (c :: body ++ [d]) = c :: body ++ [d] := by
  rw [trim, List.cons_append, skip_of_head first, ← List.cons_append,
    List.rdropWhile_concat_neg _ _ _ (by simp [last])]

/-- White space may follow the opening brace. -/
theorem loads_brace_blank {c : Char} {value : Value}
    (blank : isBlank c = true) (loaded : loads ('{' :: text) = some value) :
    loads ('{' :: c :: text) = some value := by
  obtain ⟨rest, parsed, left⟩ := loads_eq_some_iff.mp loaded
  rw [loads_eq_some_iff]
  refine ⟨rest, ?_, left⟩
  rw [skip_of_head (by decide)] at parsed ⊢
  have read := @ReadsOn.object text rest _ ('{' :: c :: text).length (readsOn _)
    _ parsed (by simp) []
  have skipped : skip (c :: text) = skip text :=
    @skip_append_of_blank [c] (by simpa using blank) text
  rw [List.append_nil, List.append_nil, parseValue, if_neg (by decide),
    if_neg (by decide), if_pos rfl] at read
  rw [parseValue, if_neg (by decide), if_neg (by decide), if_pos rfl, skipped]
  exact read

end Surroundings

/-! ## Written objects -/

section Objects

variable (style : Style) {entries : List (String × Value)}

theorem render_dict_head (entries : List (String × Value)) :
    ∃ text, render style (.dict entries) = '{' :: text := by
  cases entries <;> exact ⟨_, rfl⟩

theorem renderEntries_getLast (entries : List (String × Value)) :
    ∃ body, renderEntries style entries = body ++ ['}'] := by
  induction entries with
  | nil => exact ⟨[], rfl⟩
  | cons entry rest ih =>
      obtain ⟨key, value⟩ := entry
      cases rest with
      | nil => exact ⟨_, rfl⟩
      | cons next others =>
          obtain ⟨body, same⟩ := ih
          rw [renderEntries, same, ← List.append_assoc]
          exact ⟨_, rfl⟩

/-- A proper beginning of a written object does not load. -/
theorem loads_take (json : (Value.dict entries).isJson = true) {cut : Nat}
    (short : cut < (render style (.dict entries)).length) :
    loads ((render style (.dict entries)).take cut) = none := by
  obtain ⟨text, written⟩ := render_dict_head style entries
  have whole := (readsBack style _).value (.dict entries) [] json
    endsNumber_nil (Nat.le_succ _)
  rw [List.append_nil, written] at whole
  rw [written] at short ⊢
  cases cut with
  | zero => rfl
  | succ cut =>
      rw [List.take_succ_cons]
      unfold loads
      rw [skip_of_head (by decide)]
      rcases parsed : parseValue (('{' :: text.take cut).length + 1)
        ('{' :: text.take cut) with _ | ⟨value, rest⟩
      · rfl
      · exfalso
        have read := @ReadsOn.object _ _ _ ('{' :: text).length (readsOn _) _
          parsed (by simp) (text.drop cut)
        rw [List.cons_append, List.take_append_drop, whole] at read
        have left := (Prod.mk.inj (Option.some.inj read)).2
        have nothing := (List.append_eq_nil_iff.mp left.symm).2
        have remaining := List.drop_eq_nil_iff.mp nothing
        simp at short
        omega

/-- An object with another text behind it does not load. -/
theorem loads_append (json : (Value.dict entries).isJson = true) {c : Char}
    (notBlank : isBlank c = false) (more : List Char) :
    loads (render style (.dict entries) ++ c :: more) = none := by
  have read := (readsBack style (_ + 1)).value (.dict entries) [] json
    endsNumber_nil (Nat.le_succ _)
  obtain ⟨text, written⟩ := render_dict_head style entries
  rw [List.append_nil, written] at read
  have longer := @ReadsOn.object _ _ _ ('{' :: text ++ c :: more).length
    (readsOn _) _ read (by simp) (c :: more)
  unfold loads
  rw [written, List.cons_append, skip_of_head (by decide)]
  rw [List.cons_append] at longer
  rw [longer]
  simp only [List.nil_append, skip_of_head notBlank, List.cons_ne_nil,
    if_false]

end Objects

end Json

end Python
