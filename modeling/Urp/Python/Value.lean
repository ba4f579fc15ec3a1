import Mathlib.Data.Rat.Defs
import Mathlib.Algebra.Order.Ring.Rat
import Mathlib.Data.List.Dedup
import Mathlib.Data.List.Sort
import Mathlib.Data.String.Basic
import Urp.Library.Dict

/-!
# Dynamically typed Python values

`Value` is the type of the data that a Python program reads from JSON and
passes around: the JSON types and byte strings.  A finite float is kept as
the text of its `repr`, which determines it; infinities and NaN are separate.
Strings are Unicode text.
-/

namespace Python

abbrev Bytes := List UInt8

/-- The exponent of a float's `repr`; it has at least one digit. -/
structure Exponent where
  negative : Bool
  lead : Fin 10
  digits : List (Fin 10)
  deriving DecidableEq, Repr

/-- A finite float, by the parts of its `repr`.  A text with neither a
fraction nor an exponent would be an integer. -/
structure Decimal where
  negative : Bool
  whole : Nat
  fraction : List (Fin 10)
  exponent : Option Exponent
  marked : (!fraction.isEmpty || exponent.isSome) = true
  deriving DecidableEq, Repr

inductive PyFloat where
  | finite (text : Decimal)
  | infinity (negative : Bool)
  | nan
  deriving DecidableEq, Repr

inductive Value where
  | none
  | bool (b : Bool)
  | int (n : Int)
  | float (f : PyFloat)
  | str (s : String)
  | bytes (b : Bytes)
  | list (items : List Value)
  | dict (entries : List (String × Value))
  deriving Inhabited

namespace Exponent

def value (exponent : Exponent) : Int :=
  let size : Nat := (exponent.lead :: exponent.digits).foldl
    (fun sofar digit => 10 * sofar + digit.val) 0
  if exponent.negative then -(size : Int) else size

end Exponent

namespace Decimal

def toRat (text : Decimal) : ℚ :=
  let mantissa : Nat := text.fraction.foldl
    (fun sofar digit => 10 * sofar + digit.val) text.whole
  let scale : Int := (text.exponent.map Exponent.value).getD 0
  let size : ℚ := mantissa * (10 : ℚ) ^ (scale - text.fraction.length)
  if text.negative then -size else size

end Decimal

/-- The comparable content of a number; NaN has none. -/
inductive Number where
  | finite (q : ℚ)
  | infinity (negative : Bool)
  deriving DecidableEq

namespace Number

def lt : Number → Number → Bool
  | .finite p, .finite q => decide (p < q)
  | .infinity true, .infinity negative => !negative
  | .infinity true, .finite _ => true
  | .infinity false, _ => false
  | .finite _, .infinity negative => !negative

end Number

namespace PyFloat

def number? : PyFloat → Option Number
  | .finite text => some (.finite text.toRat)
  | .infinity negative => some (.infinity negative)
  | .nan => none

end PyFloat

namespace Value

/-- `bool` is a subclass of `int`. -/
def number? : Value → Option Number
  | .bool b => some (.finite (if b then 1 else 0))
  | .int n => some (.finite n)
  | .float f => f.number?
  | _ => Option.none

def isTruthy : Value → Bool
  | .none => false
  | .bool b => b
  | .int n => n != 0
  | .float f => f.number? != some (.finite 0)
  | .str s => s != ""
  | .bytes b => !b.isEmpty
  | .list items => !items.isEmpty
  | .dict entries => !entries.isEmpty

/-- `value is True`. -/
def isTrue : Value → Bool
  | .bool b => b
  | _ => false

def entries? : Value → Option (List (String × Value))
  | .dict entries => some entries
  | _ => Option.none

def string? : Value → Option String
  | .str s => some s
  | _ => Option.none

/-- `entries.get(key, default)`. -/
def getD (entries : List (String × Value)) (key : String) (default : Value) :
    Value :=
  (Entries.lookup entries key).getD default

/-- `entries.get(key)`. -/
def get (entries : List (String × Value)) (key : String) : Value :=
  getD entries key .none

mutual

/-- Python's `==`: numbers compare across their types, dictionaries without
their order. -/
def pyEq : Value → Value → Bool
  | .none, .none => true
  | .str s, .str t => s == t
  | .bytes b, .bytes c => b == c
  | .list items, .list others => pyEqList items others
  | .dict entries, .dict others =>
      entries.length == others.length && pyEqEntries entries others
  | left, right =>
      match left.number?, right.number? with
      | some p, some q => p == q
      | _, _ => false

def pyEqList : List Value → List Value → Bool
  | [], [] => true
  | item :: items, other :: others => pyEq item other && pyEqList items others
  | _, _ => false

/-- Every entry has an equal one under the same key. -/
def pyEqEntries : List (String × Value) → List (String × Value) → Bool
  | [], _ => true
  | (key, value) :: rest, others =>
      (match Entries.lookup others key with
        | some other => pyEq value other
        | Option.none => false) && pyEqEntries rest others

end

end Value

/-! ## Text of values -/

/-- `str.isspace` of one character. -/
def isSpace (c : Char) : Bool :=
  let n := c.toNat
  (9 ≤ n && n ≤ 13) || (28 ≤ n && n ≤ 32) || n == 0x85 || n == 0xA0 ||
    n == 0x1680 || (0x2000 ≤ n && n ≤ 0x200A) || n == 0x2028 || n == 0x2029 ||
    n == 0x202F || n == 0x205F || n == 0x3000

/-- `str.strip()`. -/
def strip (s : String) : String :=
  let left := s.toList.dropWhile isSpace
  String.ofList (left.reverse.dropWhile isSpace).reverse

/-- `s.split()`: the runs of characters that are not space. -/
def splitWords (s : String) : List String :=
  let runs := s.toList.splitBy fun c d => isSpace c == isSpace d
  (runs.filter fun run => run.all fun c => !isSpace c).map String.ofList

example : splitWords "  a bc\n d" = ["a", "bc", "d"] := by decide

/-- `part in s`. -/
def occursIn (part s : String) : Bool :=
  s.toList.tails.any fun rest => part.toList.isPrefixOf rest

def digitText (digit : Fin 10) : Char := Nat.digitChar digit.val

def intText (n : Int) : List Char :=
  match n with
  | .ofNat n => Nat.toDigits 10 n
  | .negSucc n => '-' :: Nat.toDigits 10 (n + 1)

def exponentText (exponent : Exponent) : List Char :=
  'e' :: (if exponent.negative then '-' else '+') ::
    (exponent.lead :: exponent.digits).map digitText

def decimalText (text : Decimal) : List Char :=
  (if text.negative then ['-'] else []) ++ Nat.toDigits 10 text.whole ++
    (if text.fraction.isEmpty then [] else '.' :: text.fraction.map digitText) ++
    (match text.exponent with
      | some exponent => exponentText exponent
      | none => [])

def hexChar (n : Nat) : Char := Nat.digitChar (n % 16)

/-- The `width` last hexadecimal digits of `n`. -/
def hexText (width n : Nat) : List Char :=
  match width with
  | 0 => []
  | width + 1 => hexText width (n / 16) ++ [hexChar n]

/-- The quote that `repr` puts around a text. -/
def quoteFor (text : List Char) : Char :=
  if '\'' ∈ text ∧ '"' ∉ text then '"' else '\''

section Repr

-- The Unicode database decides which non-ASCII characters are printable.
variable (isPrintable : Char → Bool)

def reprChar (quote c : Char) : List Char :=
  let n := c.toNat
  if c = quote ∨ c = '\\' then ['\\', c]
  else if c = '\t' then ['\\', 't']
  else if c = '\n' then ['\\', 'n']
  else if c = '\r' then ['\\', 'r']
  else if 32 ≤ n ∧ n < 127 then [c]
  else if n ≥ 128 ∧ isPrintable c then [c]
  else if n < 0x100 then '\\' :: 'x' :: hexText 2 n
  else if n < 0x10000 then '\\' :: 'u' :: hexText 4 n
  else '\\' :: 'U' :: hexText 8 n

def reprStr (text : List Char) : List Char :=
  let quote := quoteFor text
  quote :: text.flatMap (reprChar isPrintable quote) ++ [quote]

end Repr

/-- `repr` of a byte string: every byte outside printable ASCII is escaped. -/
def reprBytes (b : Bytes) : List Char :=
  let text := b.map fun byte => Char.ofNat byte.toNat
  let quote := quoteFor text
  'b' :: quote :: text.flatMap (reprChar (fun _ => false) quote) ++ [quote]

def floatText : PyFloat → List Char
  | .finite text => decimalText text
  | .infinity negative => if negative then "-inf".toList else "inf".toList
  | .nan => "nan".toList

section Str

variable (isPrintable : Char → Bool)

mutual

def repr : Value → List Char
  | .none => "None".toList
  | .bool b => if b then "True".toList else "False".toList
  | .int n => intText n
  | .float f => floatText f
  | .str s => reprStr isPrintable s.toList
  | .bytes b => reprBytes b
  | .list items => '[' :: reprList items ++ [']']
  | .dict entries => '{' :: reprEntries entries ++ ['}']

def reprList : List Value → List Char
  | [] => []
  | [item] => repr item
  | item :: rest => repr item ++ ", ".toList ++ reprList rest

def reprEntries : List (String × Value) → List Char
  | [] => []
  | [(key, value)] => reprStr isPrintable key.toList ++ ": ".toList ++ repr value
  | (key, value) :: rest =>
      reprStr isPrintable key.toList ++ ": ".toList ++ repr value ++
        ", ".toList ++ reprEntries rest

end

/-- `str(value)`. -/
def str (value : Value) : String :=
  match value with
  | .str s => s
  | value => String.ofList (repr isPrintable value)

@[simp] theorem str_str (s : String) : str isPrintable (.str s) = s := rfl

/-- Only a false value can be written as the empty string. -/
theorem str_ne_empty {value : Value} (truthy : value.isTruthy = true) :
    str isPrintable value ≠ "" := by
  have ofList_ne : ∀ {text : List Char}, text ≠ [] → String.ofList text ≠ "" := by
    intro text nonempty same
    apply nonempty
    simpa using congrArg String.toList same
  cases value with
  | none => cases truthy
  | bool b => cases b <;> simp [str, repr]
  | int n =>
      apply ofList_ne
      cases n <;> simp [repr, intText, Nat.toDigits_ne_nil]
  | float f =>
      apply ofList_ne
      cases f with
      | finite text => simp [repr, floatText, decimalText, Nat.toDigits_ne_nil]
      | infinity negative => cases negative <;> simp [repr, floatText]
      | nan => simp [repr, floatText]
  | str s => simpa [Value.isTruthy] using truthy
  | bytes b => exact ofList_ne (by simp [repr, reprBytes])
  | list items => exact ofList_ne (by simp [repr])
  | dict entries => exact ofList_ne (by simp [repr])

end Str

/-! ## UTF-8 and sets of strings -/

/-- `text.encode("utf-8")`. -/
def utf8 (text : List Char) : Bytes := text.flatMap String.utf8EncodeChar

/-- `sorted(set(items))`. -/
def sortedSet (items : List String) : List String :=
  items.dedup.insertionSort (· ≤ ·)

@[simp] theorem mem_sortedSet {items : List String} {item : String} :
    item ∈ sortedSet items ↔ item ∈ items := by
  simp [sortedSet, List.mem_insertionSort]

/-- `text.encode` loses nothing. -/
theorem utf8_injective {left right : List Char} (same : utf8 left = utf8 right) :
    left = right := by
  have encoded : left.utf8Encode = right.utf8Encode := by
    simp only [List.utf8Encode, utf8] at same ⊢
    rw [same]
  have texts : String.ofList left = String.ofList right :=
    String.toByteArray_inj.mp (by simpa using encoded)
  simpa using congrArg String.toList texts

theorem utf8_append (left right : List Char) :
    utf8 (left ++ right) = utf8 left ++ utf8 right := by
  simp [utf8]

def isContinuation (byte : UInt8) : Bool := 0x80 ≤ byte && byte < 0xC0

/-- The code point of a lead byte's bits and a continuation byte. -/
def continued (high : Nat) (byte : UInt8) : Nat :=
  high * 64 + (byte.toNat - 0x80)

def isScalar (n : Nat) : Bool := n < 0xD800 || (0xDFFF < n && n < 0x110000)

/-- `data.decode("utf-8")`: no overlong forms, no surrogates. -/
def decodeUtf8 : Bytes → Option (List Char)
  | [] => some []
  | a :: rest =>
      if a < 0x80 then
        (decodeUtf8 rest).map fun text => Char.ofNat a.toNat :: text
      else
        match rest with
        | [] => none
        | b :: rest =>
            if !isContinuation b then none
            else if 0xC2 ≤ a && a < 0xE0 then
              (decodeUtf8 rest).map fun text =>
                Char.ofNat (continued (a.toNat - 0xC0) b) :: text
            else
              match rest with
              | [] => none
              | c :: rest =>
                  let three := continued (continued (a.toNat - 0xE0) b) c
                  if !isContinuation c then none
                  else if 0xE0 ≤ a && a < 0xF0 then
                    if 0x800 ≤ three && isScalar three then
                      (decodeUtf8 rest).map fun text =>
                        Char.ofNat three :: text
                    else none
                  else
                    match rest with
                    | [] => none
                    | d :: rest =>
                        let four := continued
                          (continued (continued (a.toNat - 0xF0) b) c) d
                        if isContinuation d && 0xF0 ≤ a &&
                            0x10000 ≤ four && isScalar four then
                          (decodeUtf8 rest).map fun text =>
                            Char.ofNat four :: text
                        else none

theorem utf8_cons_ascii {c : Char} (ascii : c.toNat < 128)
    (text : List Char) :
    utf8 (c :: text) = UInt8.ofNat c.toNat :: utf8 text := by
  have size : c.utf8Size = 1 := by
    rw [Char.utf8Size_eq_one_iff]
    exact UInt32.le_iff_toNat_le.mpr (by
      change c.toNat ≤ 127
      omega)
  have encoded : String.utf8EncodeChar c = [UInt8.ofNat c.toNat] := by
    rw [String.utf8EncodeChar_eq_singleton size]
    rfl
  simp [utf8, encoded]

theorem isLower_iff {c : Char} :
    c.isLower = true ↔ 97 ≤ c.toNat ∧ c.toNat ≤ 122 := by
  change (decide ('a'.val ≤ c.val) && decide (c.val ≤ 'z'.val)) = true ↔ _
  rw [Bool.and_eq_true, decide_eq_true_iff, decide_eq_true_iff,
    UInt32.le_iff_toNat_le, UInt32.le_iff_toNat_le]
  rfl

theorem isScalar_toNat (c : Char) : isScalar c.toNat = true := by
  have valid := c.valid
  change c.toNat < 0xD800 ∨ (0xDFFF < c.toNat ∧ c.toNat < 0x110000) at valid
  simpa [isScalar] using valid

section Sequences

variable {a b c d : UInt8} (rest : Bytes)

theorem isContinuation_iff :
    isContinuation b = true ↔ 0x80 ≤ b.toNat ∧ b.toNat < 0xC0 := by
  simp [isContinuation, UInt8.le_iff_toNat_le, UInt8.lt_iff_toNat_lt]

theorem not_ascii_of_le (high : 0x80 ≤ a.toNat) : ¬ a < 0x80 := by
  rw [UInt8.lt_iff_toNat_lt]
  exact Nat.not_lt.mpr high

theorem decodeUtf8_one (low : a.toNat < 0x80) :
    decodeUtf8 (a :: rest) =
      (decodeUtf8 rest).map fun text => Char.ofNat a.toNat :: text := by
  have ascii : a < 0x80 := UInt8.lt_iff_toNat_lt.mpr low
  rw [decodeUtf8.eq_def]
  simp only [ascii, if_true]

theorem decodeUtf8_two (low : 0xC2 ≤ a.toNat) (high : a.toNat < 0xE0)
    (follows : isContinuation b = true) :
    decodeUtf8 (a :: b :: rest) = (decodeUtf8 rest).map fun text =>
      Char.ofNat (continued (a.toNat - 0xC0) b) :: text := by
  have ascii := not_ascii_of_le (le_trans (by decide) low)
  have lead : (0xC2 ≤ a && a < 0xE0) = true := by
    simp only [Bool.and_eq_true, decide_eq_true_eq, UInt8.le_iff_toNat_le,
      UInt8.lt_iff_toNat_lt]
    exact ⟨low, high⟩
  rw [decodeUtf8.eq_def]
  simp only [ascii, if_false, follows, Bool.not_true, Bool.false_eq_true, lead,
    if_true]

theorem decodeUtf8_three (low : 0xE0 ≤ a.toNat) (high : a.toNat < 0xF0)
    (second : isContinuation b = true) (third : isContinuation c = true)
    (long : 0x800 ≤ continued (continued (a.toNat - 0xE0) b) c)
    (scalar : isScalar (continued (continued (a.toNat - 0xE0) b) c) = true) :
    decodeUtf8 (a :: b :: c :: rest) = (decodeUtf8 rest).map fun text =>
      Char.ofNat (continued (continued (a.toNat - 0xE0) b) c) :: text := by
  have ascii := not_ascii_of_le (le_trans (by decide) low)
  have short : (0xC2 ≤ a && a < 0xE0) = false := by
    rw [Bool.and_eq_false_iff]
    right
    simpa [UInt8.lt_iff_toNat_lt] using low
  have lead : (0xE0 ≤ a && a < 0xF0) = true := by
    simp only [Bool.and_eq_true, decide_eq_true_eq, UInt8.le_iff_toNat_le,
      UInt8.lt_iff_toNat_lt]
    exact ⟨low, high⟩
  rw [decodeUtf8.eq_def]
  simp only [ascii, if_false, second, third, Bool.not_true, Bool.false_eq_true,
    short, lead, if_true, long, scalar, decide_true, Bool.and_self]

theorem decodeUtf8_four (low : 0xF0 ≤ a.toNat)
    (second : isContinuation b = true) (third : isContinuation c = true)
    (fourth : isContinuation d = true)
    (long : 0x10000 ≤
      continued (continued (continued (a.toNat - 0xF0) b) c) d)
    (scalar : isScalar
      (continued (continued (continued (a.toNat - 0xF0) b) c) d) = true) :
    decodeUtf8 (a :: b :: c :: d :: rest) = (decodeUtf8 rest).map fun text =>
      Char.ofNat (continued (continued (continued (a.toNat - 0xF0) b) c) d) ::
        text := by
  have ascii := not_ascii_of_le (le_trans (by decide) low)
  have short : (0xC2 ≤ a && a < 0xE0) = false := by
    rw [Bool.and_eq_false_iff]
    right
    simp only [UInt8.lt_iff_toNat_lt, decide_eq_false_iff_not, not_lt]
    exact le_trans (by decide) low
  have middle : (0xE0 ≤ a && a < 0xF0) = false := by
    rw [Bool.and_eq_false_iff]
    right
    simpa [UInt8.lt_iff_toNat_lt] using low
  have lead : decide (0xF0 ≤ a) = true :=
    decide_eq_true (UInt8.le_iff_toNat_le.mpr low)
  rw [decodeUtf8.eq_def]
  simp only [ascii, if_false, second, third, fourth, Bool.not_true,
    Bool.false_eq_true, short, middle, lead, if_true, long, scalar,
    decide_true, Bool.and_self]

end Sequences

/-- A character's bytes decode to it. -/
theorem decodeUtf8_encodeChar (c : Char) (rest : Bytes) :
    decodeUtf8 (String.utf8EncodeChar c ++ rest) =
      (decodeUtf8 rest).map fun text => c :: text := by
  have scalar : isScalar c.val.toNat = true := isScalar_toNat c
  have own : Char.ofNat c.val.toNat = c := Char.ofNat_toNat c
  have limit : c.val.toNat < 0x110000 := by
    simp only [isScalar, Bool.or_eq_true, decide_eq_true_eq,
      Bool.and_eq_true] at scalar
    omega
  have byte : ∀ n : Nat, n < 256 → (UInt8.ofNat n).toNat = n := by
    intro n small
    rw [UInt8.toNat_ofNat']
    omega
  have follows : ∀ n : Nat,
      isContinuation (UInt8.ofNat (n % 64 + 128)) = true := by
    intro n
    rw [isContinuation_iff, byte _ (by omega)]
    omega
  have adds : ∀ high n : Nat,
      continued high (UInt8.ofNat (n % 64 + 128)) = high * 64 + n % 64 := by
    intro high n
    have size := byte (n % 64 + 128) (by omega)
    unfold continued
    omega
  unfold String.utf8EncodeChar
  generalize c.val.toNat = v at scalar own limit ⊢
  dsimp only
  split
  · have lead := byte v (by omega)
    rw [List.singleton_append, decodeUtf8_one _ (by omega), lead, own]
  · split
    · have lead := byte (v / 64 % 32 + 192) (by omega)
      have value : continued ((UInt8.ofNat (v / 64 % 32 + 192)).toNat - 0xC0)
          (UInt8.ofNat (v % 64 + 128)) = v := by
        rw [adds, lead]
        omega
      rw [List.cons_append, List.singleton_append,
        decodeUtf8_two _ (by omega) (by omega) (follows v), value, own]
    · split
      · have lead := byte (v / 4096 % 16 + 224) (by omega)
        have value : continued (continued
            ((UInt8.ofNat (v / 4096 % 16 + 224)).toNat - 0xE0)
              (UInt8.ofNat (v / 64 % 64 + 128)))
                (UInt8.ofNat (v % 64 + 128)) = v := by
          rw [adds, adds, lead]
          omega
        rw [List.cons_append, List.cons_append, List.singleton_append,
          decodeUtf8_three _ (by omega) (by omega) (follows _) (follows v)
            (by omega) (by rw [value, scalar]), value, own]
      · have lead := byte (v / 262144 % 8 + 240) (by omega)
        have value : continued (continued (continued
            ((UInt8.ofNat (v / 262144 % 8 + 240)).toNat - 0xF0)
              (UInt8.ofNat (v / 4096 % 64 + 128)))
                (UInt8.ofNat (v / 64 % 64 + 128)))
                  (UInt8.ofNat (v % 64 + 128)) = v := by
          rw [adds, adds, adds, lead]
          omega
        rw [List.cons_append, List.cons_append, List.cons_append,
          List.singleton_append, decodeUtf8_four _ (by omega) (follows _)
            (follows _) (follows v) (by omega) (by rw [value, scalar]), value,
          own]

/-- Text decodes to itself. -/
theorem decodeUtf8_utf8 (text : List Char) :
    decodeUtf8 (utf8 text) = some text := by
  induction text with
  | nil => rfl
  | cons c rest ih =>
      rw [utf8, List.flatMap_cons, decodeUtf8_encodeChar]
      change (decodeUtf8 (utf8 rest)).map _ = _
      rw [ih]
      rfl

end Python
