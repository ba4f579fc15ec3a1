import Urp.Python.Value

/-!
# SHA-256

`sha256 data` is `hashlib.sha256(data).hexdigest()`.  The rounds force each
word before it is used again, so that a digest can be evaluated in a proof;
`force` itself is the plain application.
-/

namespace Python

namespace Sha256

/-- Evaluate `n`, then continue with it. -/
def force {α : Type} (n : Nat) (next : Nat → α) : α :=
  match n with
  | 0 => next 0
  | k + 1 => next (k + 1)

structure State where
  a : Nat
  b : Nat
  c : Nat
  d : Nat
  e : Nat
  f : Nat
  g : Nat
  h : Nat

def roundConstants : List Nat :=
  [0x428a2f98, 0x71374491, 0xb5c0fbcf, 0xe9b5dba5, 0x3956c25b, 0x59f111f1,
    0x923f82a4, 0xab1c5ed5, 0xd807aa98, 0x12835b01, 0x243185be, 0x550c7dc3,
    0x72be5d74, 0x80deb1fe, 0x9bdc06a7, 0xc19bf174, 0xe49b69c1, 0xefbe4786,
    0x0fc19dc6, 0x240ca1cc, 0x2de92c6f, 0x4a7484aa, 0x5cb0a9dc, 0x76f988da,
    0x983e5152, 0xa831c66d, 0xb00327c8, 0xbf597fc7, 0xc6e00bf3, 0xd5a79147,
    0x06ca6351, 0x14292967, 0x27b70a85, 0x2e1b2138, 0x4d2c6dfc, 0x53380d13,
    0x650a7354, 0x766a0abb, 0x81c2c92e, 0x92722c85, 0xa2bfe8a1, 0xa81a664b,
    0xc24b8b70, 0xc76c51a3, 0xd192e819, 0xd6990624, 0xf40e3585, 0x106aa070,
    0x19a4c116, 0x1e376c08, 0x2748774c, 0x34b0bcb5, 0x391c0cb3, 0x4ed8aa4a,
    0x5b9cca4f, 0x682e6ff3, 0x748f82ee, 0x78a5636f, 0x84c87814, 0x8cc70208,
    0x90befffa, 0xa4506ceb, 0xbef9a3f7, 0xc67178f2]

def initial : State where
  a := 0x6a09e667
  b := 0xbb67ae85
  c := 0x3c6ef372
  d := 0xa54ff53a
  e := 0x510e527f
  f := 0x9b05688c
  g := 0x1f83d9ab
  h := 0x5be0cd19

def rotate (x k : Nat) : Nat := (x >>> k) ||| ((x <<< (32 - k)) % 2 ^ 32)

def bigSigma0 (x : Nat) : Nat := rotate x 2 ^^^ rotate x 13 ^^^ rotate x 22

def bigSigma1 (x : Nat) : Nat := rotate x 6 ^^^ rotate x 11 ^^^ rotate x 25

def smallSigma0 (x : Nat) : Nat := rotate x 7 ^^^ rotate x 18 ^^^ (x >>> 3)

def smallSigma1 (x : Nat) : Nat := rotate x 17 ^^^ rotate x 19 ^^^ (x >>> 10)

def choose (e f g : Nat) : Nat := (e &&& f) ^^^ ((2 ^ 32 - 1 - e) &&& g)

def majority (a b c : Nat) : Nat := (a &&& b) ^^^ (a &&& c) ^^^ (b &&& c)

/-- One round for each constant.  The window holds the next sixteen words of
the message schedule, so that each round can append the one sixteen later. -/
def rounds : List Nat → List Nat → State → State
  | k :: constants, w :: window, s =>
      force (s.h + bigSigma1 s.e + choose s.e s.f s.g + k + w) fun t =>
      force ((s.d + t) % 2 ^ 32) fun e =>
      force ((t + bigSigma0 s.a + majority s.a s.b s.c) % 2 ^ 32) fun a =>
      force ((smallSigma1 (window.getD 13 0) + window.getD 8 0 +
        smallSigma0 (window.getD 0 0) + w) % 2 ^ 32) fun next =>
      rounds constants (window ++ [next]) ⟨a, s.a, s.b, s.c, e, s.e, s.f, s.g⟩
  | _, _, s => s

def compress (s : State) (block : List Nat) : State :=
  let r := rounds roundConstants block s
  force ((s.a + r.a) % 2 ^ 32) fun a =>
  force ((s.b + r.b) % 2 ^ 32) fun b =>
  force ((s.c + r.c) % 2 ^ 32) fun c =>
  force ((s.d + r.d) % 2 ^ 32) fun d =>
  force ((s.e + r.e) % 2 ^ 32) fun e =>
  force ((s.f + r.f) % 2 ^ 32) fun f =>
  force ((s.g + r.g) % 2 ^ 32) fun g =>
  force ((s.h + r.h) % 2 ^ 32) fun h =>
  ⟨a, b, c, d, e, f, g, h⟩

def blocks : Nat → List Nat → State → State
  | 0, _, s => s
  | count + 1, words, s =>
      blocks count (words.drop 16) (compress s (words.take 16))

/-- Big-endian words of four bytes. -/
def words : List Nat → List Nat
  | p :: q :: r :: s :: rest =>
      (((p * 256 + q) * 256 + r) * 256 + s) :: words rest
  | _ => []

/-- The message, a one bit, zeros up to 56 modulo 64, and the bit length. -/
def padded (data : Bytes) : List Nat :=
  let size := data.length
  data.map UInt8.toNat ++
    0x80 :: List.replicate ((119 - size % 64) % 64) 0 ++
    (List.range 8).map fun i => (8 * size) / 256 ^ (7 - i) % 256

def digest (data : Bytes) : State :=
  let message := words (padded data)
  blocks (message.length / 16) message initial

def hexState (s : State) : List Char :=
  hexText 8 s.a ++ hexText 8 s.b ++ hexText 8 s.c ++ hexText 8 s.d ++
    hexText 8 s.e ++ hexText 8 s.f ++ hexText 8 s.g ++ hexText 8 s.h

/-- The big-endian bytes of a word. -/
def wordBytes (word : Nat) : Bytes :=
  [.ofNat (word / 2 ^ 24), .ofNat (word / 2 ^ 16), .ofNat (word / 2 ^ 8),
    .ofNat word]

def bytesState (s : State) : Bytes :=
  [s.a, s.b, s.c, s.d, s.e, s.f, s.g, s.h].flatMap wordBytes

@[simp] theorem force_eq {α : Type} (n : Nat) (next : Nat → α) :
    force n next = next n := by
  cases n <;> rfl

end Sha256

/-- `hashlib.sha256(data).hexdigest()`. -/
@[irreducible]
def sha256 (data : Bytes) : String :=
  String.ofList (Sha256.hexState (Sha256.digest data))

/-- A digit of `bytes.hex()`. -/
def isHexDigit (c : Char) : Bool := c ∈ "0123456789abcdef".toList

theorem isHexDigit_hexChar (n : Nat) : isHexDigit (hexChar n) = true := by
  have every : ∀ d < 16, isHexDigit (Nat.digitChar d) = true := by decide
  exact every _ (Nat.mod_lt n (by decide))

theorem length_hexText (width n : Nat) : (hexText width n).length = width := by
  induction width generalizing n with
  | zero => rfl
  | succ width ih => simp [hexText, ih]

theorem hexText_digits {width n : Nat} {c : Char}
    (member : c ∈ hexText width n) : isHexDigit c = true := by
  induction width generalizing n with
  | zero => simp [hexText] at member
  | succ width ih =>
      simp only [hexText, List.mem_append, List.mem_singleton] at member
      rcases member with early | rfl
      · exact ih early
      · exact isHexDigit_hexChar n

theorem length_sha256 (data : Bytes) : (sha256 data).toList.length = 64 := by
  unfold sha256
  simp [Sha256.hexState, length_hexText]

theorem sha256_digits {data : Bytes} {c : Char}
    (member : c ∈ (sha256 data).toList) : isHexDigit c = true := by
  unfold sha256 at member
  simp only [String.toList_ofList, Sha256.hexState, List.mem_append] at member
  rcases member with ((((((m | m) | m) | m) | m) | m) | m) | m <;>
    exact hexText_digits m

theorem sha256_ne_empty (data : Bytes) : sha256 data ≠ "" := by
  intro empty
  have size := length_sha256 data
  rw [empty] at size
  simp at size

/-- `hmac.new(key, message, hashlib.sha256).hexdigest()`. -/
def hmacSha256 (key message : Bytes) : String :=
  let digest := fun data => Sha256.bytesState (Sha256.digest data)
  let short := if 64 < key.length then digest key else key
  let block := short ++ List.replicate (64 - short.length) 0
  let pad := fun byte => block.map (· ^^^ byte)
  sha256 (pad 0x5c ++ digest (pad 0x36 ++ message))

example : hmacSha256 (utf8 "Jefe".toList)
      (utf8 "what do ya want for nothing?".toList) =
    "5bdcc146bf60754e6a042426089575c75a003f089d2739839dec58b964ec3843" := by
  decide +kernel

example : sha256 (utf8 "abc".toList) =
    "ba7816bf8f01cfea414140de5dae2223b00361a396177a9cb410ff61f20015ad" := by
  decide +kernel

end Python
