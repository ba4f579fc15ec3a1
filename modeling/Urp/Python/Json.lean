import Urp.Python.Value

/-!
# JSON text

`dumps` is `json.dumps(value, sort_keys=True, default=str)` with either pair
of separators the program uses, `loads` is `json.loads`.  Sorting the keys
comes first and rendering follows, so that `loads` inverts the rendering and
returns the sorted value.  A number's text is kept as it stands: on the text
of a float's `repr`, the only kind `dumps` writes, that is the float itself.
-/

namespace Python

namespace Value

mutual

/-- The value with every dictionary in key order. -/
def sorted : Value → Value
  | .list items => .list (sortedList items)
  | .dict entries =>
      .dict ((sortedEntries entries).insertionSort fun p q => p.1 ≤ q.1)
  | value => value

def sortedList : List Value → List Value
  | [] => []
  | item :: rest => sorted item :: sortedList rest

def sortedEntries : List (String × Value) → List (String × Value)
  | [] => []
  | (key, value) :: rest => (key, sorted value) :: sortedEntries rest

end

mutual

/-- The value with every byte string replaced by its text, as `default=str`
does. -/
def withText : Value → Value
  | .bytes b => .str (String.ofList (reprBytes b))
  | .list items => .list (withTextList items)
  | .dict entries => .dict (withTextEntries entries)
  | value => value

def withTextList : List Value → List Value
  | [] => []
  | item :: rest => withText item :: withTextList rest

def withTextEntries : List (String × Value) → List (String × Value)
  | [] => []
  | (key, value) :: rest => (key, withText value) :: withTextEntries rest

end

theorem keys_withTextEntries (entries : List (String × Value)) :
    (withTextEntries entries).map Prod.fst = entries.map Prod.fst := by
  induction entries with
  | nil => rfl
  | cons entry rest ih =>
      obtain ⟨key, value⟩ := entry
      simp only [withTextEntries, List.map_cons, ih]

mutual

def hasBytes : Value → Bool
  | .bytes _ => true
  | .list items => hasBytesList items
  | .dict entries => hasBytesEntries entries
  | _ => false

def hasBytesList : List Value → Bool
  | [] => false
  | item :: rest => hasBytes item || hasBytesList rest

def hasBytesEntries : List (String × Value) → Bool
  | [] => false
  | (_, value) :: rest => hasBytes value || hasBytesEntries rest

end

mutual

/-- Byte strings nowhere, and distinct keys in every dictionary. -/
def isJson : Value → Bool
  | .bytes _ => false
  | .list items => isJsonList items
  | .dict entries =>
      decide (entries.map Prod.fst).Nodup && isJsonEntries entries
  | _ => true

def isJsonList : List Value → Bool
  | [] => true
  | item :: rest => isJson item && isJsonList rest

def isJsonEntries : List (String × Value) → Bool
  | [] => true
  | (_, value) :: rest => isJson value && isJsonEntries rest

end

mutual

/-- No NaN anywhere. -/
def isNanFree : Value → Bool
  | .float .nan => false
  | .list items => isNanFreeList items
  | .dict entries => isNanFreeEntries entries
  | _ => true

def isNanFreeList : List Value → Bool
  | [] => true
  | item :: rest => isNanFree item && isNanFreeList rest

def isNanFreeEntries : List (String × Value) → Bool
  | [] => true
  | (_, value) :: rest => isNanFree value && isNanFreeEntries rest

end

end Value

namespace Json

/-! ## Writing -/

/-- The separators of `json.dumps`: the default ones, or `(",", ":")`. -/
inductive Style where
  | spaced
  | compact
  deriving DecidableEq

namespace Style

def space : Style → List Char
  | .spaced => [' ']
  | .compact => []

end Style

/-- One `\u` escape; the number is below 65536. -/
def unicodeEscape (n : Nat) : List Char := '\\' :: 'u' :: hexText 4 n

/-- `ensure_ascii`: characters outside printable ASCII are escaped, those
above the basic plane as a surrogate pair. -/
def escapeChar (c : Char) : List Char :=
  if c = '"' then ['\\', '"']
  else if c = '\\' then ['\\', '\\']
  else if c = '\n' then ['\\', 'n']
  else if c = '\r' then ['\\', 'r']
  else if c = '\t' then ['\\', 't']
  else if c = '\x0c' then ['\\', 'f']
  else if c = '\x08' then ['\\', 'b']
  else if 32 ≤ c.toNat ∧ c.toNat ≤ 126 then [c]
  else if c.toNat < 0x10000 then unicodeEscape c.toNat
  else
    unicodeEscape (0xD800 + (c.toNat - 0x10000) / 0x400) ++
      unicodeEscape (0xDC00 + (c.toNat - 0x10000) % 0x400)

def renderString (text : List Char) : List Char :=
  '"' :: text.flatMap escapeChar ++ ['"']

def renderFloat : PyFloat → List Char
  | .finite text => decimalText text
  | .infinity negative =>
      if negative then "-Infinity".toList else "Infinity".toList
  | .nan => "NaN".toList

section Render

variable (style : Style)

mutual

/-- `default=str` turns a byte string into the text of its `repr`. -/
def render : Value → List Char
  | .none => "null".toList
  | .bool b => if b then "true".toList else "false".toList
  | .int n => intText n
  | .float f => renderFloat f
  | .str s => renderString s.toList
  | .bytes b => renderString (reprBytes b)
  | .list items => '[' :: renderList items
  | .dict entries => '{' :: renderEntries entries

/-- The items and the closing bracket. -/
def renderList : List Value → List Char
  | [] => [']']
  | [item] => render item ++ [']']
  | item :: next :: rest =>
      render item ++ ',' :: style.space ++ renderList (next :: rest)

def renderEntries : List (String × Value) → List Char
  | [] => ['}']
  | [(key, value)] =>
      renderString key.toList ++ ':' :: style.space ++ render value ++ ['}']
  | (key, value) :: next :: rest =>
      renderString key.toList ++ ':' :: style.space ++ render value ++
        ',' :: style.space ++ renderEntries (next :: rest)

end

/-- `json.dumps(value, sort_keys=True, default=str)`. -/
def dumps (value : Value) : List Char := render style value.sorted

end Render

/-! ## Reading -/

def isBlank (c : Char) : Bool := c = ' ' || c = '\t' || c = '\n' || c = '\r'

def skip (text : List Char) : List Char := text.dropWhile isBlank

/-- What follows `prefixText` in the text. -/
def after : List Char → List Char → Option (List Char)
  | [], text => some text
  | _ :: _, [] => none
  | c :: wanted, d :: text => if c = d then after wanted text else none

def hexDigit? (c : Char) : Option Nat :=
  if '0' ≤ c ∧ c ≤ '9' then some (c.toNat - 48)
  else if 'a' ≤ c ∧ c ≤ 'f' then some (c.toNat - 87)
  else if 'A' ≤ c ∧ c ≤ 'F' then some (c.toNat - 55)
  else none

/-- The number of four hexadecimal digits and the text after them. -/
def parseHex : List Char → Option (Nat × List Char)
  | p :: q :: r :: s :: rest => do
      let p ← hexDigit? p
      let q ← hexDigit? q
      let r ← hexDigit? r
      let s ← hexDigit? s
      some (((p * 16 + q) * 16 + r) * 16 + s, rest)
  | _ => none

def isHighSurrogate (n : Nat) : Bool := 0xD800 ≤ n && n ≤ 0xDBFF

def isLowSurrogate (n : Nat) : Bool := 0xDC00 ≤ n && n ≤ 0xDFFF

/-- The character of a `\u` escape whose digits start the text.  An escape
that leaves a lone surrogate gives no Unicode text. -/
def parseUnicode (text : List Char) : Option (Char × List Char) := do
  let (high, rest) ← parseHex text
  if isHighSurrogate high then
    let (low, rest) ← parseHex (← after ['\\', 'u'] rest)
    if isLowSurrogate low then
      some (Char.ofNat (0x10000 + (high - 0xD800) * 0x400 + (low - 0xDC00)),
        rest)
    else none
  else if isLowSurrogate high then none
  else some (Char.ofNat high, rest)

def simpleEscape? (c : Char) : Option Char :=
  if c = '"' then some '"'
  else if c = '\\' then some '\\'
  else if c = '/' then some '/'
  else if c = 'b' then some '\x08'
  else if c = 'f' then some '\x0c'
  else if c = 'n' then some '\n'
  else if c = 'r' then some '\r'
  else if c = 't' then some '\t'
  else none

/-- One character of a string's body, escaped or not. -/
def parseChar : List Char → Option (Char × List Char)
  | [] => none
  | c :: rest =>
      if c = '\\' then
        match rest with
        | [] => none
        | e :: rest =>
            if e = 'u' then parseUnicode rest
            else (simpleEscape? e).map fun c => (c, rest)
      else if c.toNat < 32 then none
      else some (c, rest)

/-- A string's body up to its closing quote. -/
def parseString : Nat → List Char → Option (List Char × List Char)
  | 0, _ => none
  | fuel + 1, text =>
      match after ['"'] text with
      | some rest => some ([], rest)
      | none =>
          match parseChar text with
          | none => none
          | some (c, rest) =>
              (parseString fuel rest).map fun p => (c :: p.1, p.2)

def literals : List (List Char × Value) :=
  [("null".toList, .none), ("true".toList, .bool true),
    ("false".toList, .bool false), ("NaN".toList, .float .nan),
    ("Infinity".toList, .float (.infinity false)),
    ("-Infinity".toList, .float (.infinity true))]

def parseLiteral (text : List Char) :
    List (List Char × Value) → Option (Value × List Char)
  | [] => none
  | (word, value) :: others =>
      match after word text with
      | some rest => some (value, rest)
      | none => parseLiteral text others

def digitOf (c : Char) : Fin 10 := Fin.ofNat 10 (c.toNat - 48)

def spanDigits (text : List Char) : List Char × List Char :=
  (text.takeWhile Char.isDigit, text.dropWhile Char.isDigit)

def parseSign (text : List Char) : Bool × List Char :=
  match after ['-'] text with
  | some rest => (true, rest)
  | none => (false, text)

/-- `0|[1-9][0-9]*`. -/
def parseWhole (text : List Char) : Option (Nat × List Char) :=
  match after ['0'] text with
  | some rest => some (0, rest)
  | none =>
      match spanDigits text with
      | ([], _) => none
      | (digits, rest) => some (Nat.ofDigitChars 10 digits 0, rest)

/-- `(\.[0-9]+)?`. -/
def parseFraction (text : List Char) : List (Fin 10) × List Char :=
  match after ['.'] text with
  | none => ([], text)
  | some rest =>
      match spanDigits rest with
      | ([], _) => ([], text)
      | (digits, rest) => (digits.map digitOf, rest)

/-- `([eE][-+]?[0-9]+)?`. -/
def parseExponent (text : List Char) : Option Exponent × List Char :=
  match text with
  | [] => (none, text)
  | e :: rest =>
      if e = 'e' ∨ e = 'E' then
        let (negative, digitsText) :=
          match after ['+'] rest with
          | some rest => (false, rest)
          | none => parseSign rest
        match spanDigits digitsText with
        | ([], _) => (none, text)
        | (lead :: digits, rest) =>
            (some ⟨negative, digitOf lead, digits.map digitOf⟩, rest)
      else (none, text)

def parseNumber (text : List Char) : Option (Value × List Char) :=
  let (negative, text) := parseSign text
  match parseWhole text with
  | none => none
  | some (whole, text) =>
      let (fraction, text) := parseFraction text
      let (exponent, text) := parseExponent text
      if marked : (!fraction.isEmpty || exponent.isSome) = true then
        some (.float (.finite ⟨negative, whole, fraction, exponent, marked⟩),
          text)
      else some (.int (if negative then -(whole : Int) else whole), text)

mutual

def parseValue : Nat → List Char → Option (Value × List Char)
  | 0, _ => none
  | fuel + 1, text =>
      match text with
      | [] => none
      | c :: rest =>
          if c = '"' then
            (parseString rest.length rest).map fun p =>
              (.str (String.ofList p.1), p.2)
          else if c = '[' then
            match after [']'] (skip rest) with
            | some rest => some (.list [], rest)
            | none =>
                (parseItems fuel (skip rest)).map fun p => (.list p.1, p.2)
          else if c = '{' then
            match after ['}'] (skip rest) with
            | some rest => some (.dict [], rest)
            | none =>
                (parseEntries fuel (skip rest) []).map fun p =>
                  (.dict p.1, p.2)
          else
            match parseLiteral text literals with
            | some found => some found
            | none => parseNumber text

def parseItems : Nat → List Char → Option (List Value × List Char)
  | 0, _ => none
  | fuel + 1, text =>
      match parseValue fuel text with
      | none => none
      | some (item, rest) =>
          match after [','] (skip rest) with
          | some rest =>
              (parseItems fuel (skip rest)).map fun p => (item :: p.1, p.2)
          | none => (after [']'] (skip rest)).map fun rest => ([item], rest)

/-- The entries read so far come along; a repeated key keeps its place and
takes the later value. -/
def parseEntries : Nat → List Char → List (String × Value) →
    Option (List (String × Value) × List Char)
  | 0, _, _ => none
  | fuel + 1, text, before =>
      match after ['"'] text with
      | none => none
      | some keyText =>
          match parseString keyText.length keyText with
          | none => none
          | some (key, rest) =>
              match after [':'] (skip rest) with
              | none => none
              | some rest =>
                  match parseValue fuel (skip rest) with
                  | none => none
                  | some (value, rest) =>
                      let entries :=
                        Entries.insert before (String.ofList key) value
                      match after [','] (skip rest) with
                      | some rest => parseEntries fuel (skip rest) entries
                      | none =>
                          (after ['}'] (skip rest)).map fun rest =>
                            (entries, rest)

end

/-- `json.loads(text)`; `none` is the decoding error. -/
def loads (text : List Char) : Option Value :=
  match parseValue (text.length + 1) (skip text) with
  | none => none
  | some (value, rest) => if skip rest = [] then some value else none

end Json

end Python
