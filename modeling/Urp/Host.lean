import Urp.Policy
import Urp.Library.Program

/-!
# The host of the program

A `Host` gives what the code takes from outside its own source: generated
identifiers, the clock, the codecs, the Unicode database, and the functions
that compute with floating-point numbers.  A `Session` is the process state
that one call runs under.  A `Supply` counts what was drawn so far.
-/

namespace Urp

open Python

/-- A compressor and its decompressor, which may reject its input. -/
structure Codec where
  compress : Bytes → Bytes
  decompress : Bytes → Option Bytes

structure Host where
  /-- The names on the resolved path of the chunk store's directory. -/
  chunkRoot : List String
  /-- The `hex` of the k-th generated UUID. -/
  uuid4 : Nat → String
  /-- The k-th reading of the system clock, in seconds. -/
  clock : Nat → ℚ
  isoformat : ℚ → String
  fromIsoformat : String → Option ℚ
  /-- Whether the schema validator's optional date-time check is installed. -/
  dateTimeChecked : Bool
  zlib : Codec
  /-- The optional `zstandard` dependency. -/
  zstandard : Option Codec
  isPrintable : Char → Bool
  casefold : String → String
  /-- `int(text)` and `float(text)`. -/
  intOfText : String → Option Int
  floatOfText : String → Option PyFloat
  byteEntropy : Bytes → PyFloat
  /-- `0.7 * word_score + 0.3 * trigram_score`. -/
  semanticScore : ℚ → ℚ → Decimal
  /-- `n / 255`. -/
  byteRatio : Nat → Decimal
  /-- One number of `struct.pack` and `struct.unpack` in the format `<f`. -/
  packFloat : PyFloat → Bytes
  unpackFloat : Bytes → PyFloat
  /-- The scores that `_score_plan` adds to a plan's expectations. -/
  scorePlan : WorkUnit → List PlanAction → Classification → PolicyDecision →
    List (String × Value)
  /-- The key of `ApprovalStore._key`, or what reading it raises. -/
  approvalKey : Except PyException Bytes

structure Session where
  /-- The tenant of the current principal; `none` without one or for `*`. -/
  currentTenant : Option String := none
  /-- The environment variables `URP_MODE`, `URP_EXECUTION_DISABLED` and
  `URP_ACTIVE_POLICY`. -/
  urpMode : Option String := none
  executionDisabled : Option String := none
  activePolicy : Option String := none

/-- How many identifiers and clock readings were drawn. -/
structure Supply where
  nextId : Nat := 0
  tick : Nat := 0

namespace Host

/-- `new_id(prefix)`. -/
def idText (host : Host) (kind : String) (k : Nat) : String :=
  kind ++ "_" ++ host.uuid4 k

def newId (host : Host) (kind : String) : Program Supply PyException String :=
  do
    let supply ← Program.get
    Program.modify fun s => { s with nextId := s.nextId + 1 }
    return host.idText kind supply.nextId

/-- `time.time()`. -/
def now (host : Host) : Program Supply PyException ℚ := do
  let supply ← Program.get
  Program.modify fun s => { s with tick := s.tick + 1 }
  return host.clock supply.tick

def utcNow (host : Host) : Program Supply PyException String := do
  let seconds ← host.now
  return host.isoformat seconds

/-- `str(value)`. -/
def str (host : Host) (value : Value) : String :=
  Python.str host.isPrintable value

end Host

/-! ## Configuration -/

/-- `value or fallback` for an optional string. -/
def textOr (value : Option String) (fallback : String) : String :=
  match value with
  | none => fallback
  | some text => if text = "" then fallback else text

-- No letter outside ASCII has one of the three words' letters as its lower
-- case, so that lowering the ASCII letters decides.
def executionMode (session : Session) (requested : Option String) :
    Except PyException Mode :=
  match (strip (textOr requested (session.urpMode.getD "enforce"))).toLower with
  | "observe" => .ok .observe
  | "shadow" => .ok .shadow
  | "enforce" => .ok .enforce
  | _ => .error (.valueError "mode must be observe, shadow, or enforce")

/-- An explicit mode counts in every session. -/
theorem executionMode_enforce (session : Session) :
    executionMode session (some "enforce") = .ok .enforce := by
  have asked : textOr (some "enforce") (session.urpMode.getD "enforce") =
      "enforce" := by
    simp [textOr]
  have lowered : (strip "enforce").toLower = "enforce" := by decide +kernel
  simp only [executionMode, asked, lowered]

theorem executionMode_default : executionMode {} none = .ok .enforce := by
  have text : (strip (textOr none "enforce")).toLower = "enforce" := by
    decide +kernel
  simp only [executionMode, Option.getD_none, text]

def requireExecutionEnabled (session : Session)
    (workUnitId : Option String) : Except PyException Unit :=
  if (strip (session.executionDisabled.getD "")).toLower ∈
      ["1", "true", "yes", "on"] then
    .error (policyDenied
      "execution is disabled for this control-plane deployment" workUnitId)
  else .ok ()

/-- A principal bound to a tenant reaches that tenant only. -/
def requireTenant (session : Session) (tenant : String) :
    Except PyException Unit :=
  match session.currentTenant with
  | none | some "" => .ok ()
  | some principal =>
      if tenant = principal then .ok ()
      else .error (tenantMismatch principal tenant)

/-- `tenant or current_tenant()`. -/
def Session.tenantOr (session : Session) (tenant : Option String) :
    Option String :=
  match tenant with
  | none | some "" => session.currentTenant
  | some tenant => some tenant

/-- The rows of a tenant, or all of them without one. -/
def rowsOf {α : Type} (owner : α → String) (tenant : Option String)
    (rows : List α) : List α :=
  match tenant with
  | none | some "" => rows
  | some tenant => rows.filter fun row => owner row = tenant

/-- A row of this owner is seen under the tenant. -/
def inTenant (tenant : Option String) (owner : String) : Bool :=
  match tenant with
  | none | some "" => true
  | some tenant => owner = tenant

theorem inTenant_some {tenant owner : String} (named : tenant ≠ "") :
    inTenant (some tenant) owner = decide (owner = tenant) := by
  unfold inTenant
  split
  · next absent => cases absent
  · next empty => exact absurd (Option.some.inj empty) named
  · next same =>
      cases same
      rfl

theorem rowsOf_eq_filter {α : Type} (owner : α → String)
    (tenant : Option String) (rows : List α) :
    rowsOf owner tenant rows =
      rows.filter fun row => inTenant tenant (owner row) := by
  unfold rowsOf inTenant
  split <;> simp

theorem requireTenant_eq_ok_iff {session : Session} {tenant : String} :
    requireTenant session tenant = .ok () ↔
      inTenant session.currentTenant tenant = true := by
  unfold requireTenant inTenant
  split
  · exact iff_of_true rfl rfl
  · exact iff_of_true rfl rfl
  · split <;> simp_all

/-! ## A host for fixed inputs -/

/-- Counted identifiers, a clock that ticks once a reading, `zlib` streams of
one stored block, and no optional dependency. -/
def Host.counting : Host where
  chunkRoot := ["srv", "urp", "chunks"]
  uuid4 k := String.ofList
    (List.replicate (32 - (Nat.toDigits 10 k).length) '0' ++ Nat.toDigits 10 k)
  clock k := k
  isoformat _ := "2024-01-01T00:00:00+00:00"
  fromIsoformat _ := none
  dateTimeChecked := true
  zlib := ⟨fun data => 0x78 :: 0x5e :: data, fun
    | 0x78 :: 0x5e :: data => some data
    | _ => none⟩
  zstandard := none
  isPrintable _ := true
  casefold text := text.toLower
  intOfText text := text.toInt?
  floatOfText _ := none
  byteEntropy _ := .finite ⟨false, 1, [Json.digitOf '0'], none, rfl⟩
  semanticScore words trigrams :=
    ⟨false, if words = 1 ∧ trigrams = 1 then 1 else 0, [Json.digitOf '0'], none, rfl⟩
  byteRatio n := ⟨false, n / 255, [Json.digitOf '0'], none, rfl⟩
  packFloat _ := [0, 0, 0, 0]
  unpackFloat _ := .finite ⟨false, 0, [Json.digitOf '0'], none, rfl⟩
  scorePlan _ _ _ _ := []
  approvalKey := .error (.valueError "local approval signing key is invalid")

theorem Host.counting_fresh : Function.Injective Host.counting.uuid4 := by
  have value : ∀ k, Nat.ofDigitChars 10 (Host.counting.uuid4 k).toList 0 = k := by
    intro k
    simp [Host.counting, Nat.ofDigitChars_append, Nat.ofDigitChars_replicate_zero,
      Nat.ofDigitChars_ten_toDigits]
  intro i j same
  rw [← value i, same, value j]

/-! ## Drawing from the supply -/

/-- The supply is only drawn from. -/
def Supply.Before (earlier later : Supply) : Prop :=
  earlier.nextId ≤ later.nextId ∧ earlier.tick ≤ later.tick

theorem Supply.Before.refl (supply : Supply) : supply.Before supply :=
  ⟨Nat.le_refl _, Nat.le_refl _⟩

theorem Supply.Before.trans {first second third : Supply}
    (early : first.Before second) (late : second.Before third) :
    first.Before third :=
  ⟨Nat.le_trans early.1 late.1, Nat.le_trans early.2 late.2⟩

instance : IsPreorder Supply Supply.Before where
  refl := Supply.Before.refl
  trans _ _ _ := Supply.Before.trans

namespace Host

open Program

variable (host : Host)

theorem within_newId (kind : String) :
    Within Supply.Before (host.newId kind) := by
  intro supply
  exact ⟨Nat.le_succ _, Nat.le_refl _⟩

theorem within_now : Within Supply.Before host.now := by
  intro supply
  exact ⟨Nat.le_refl _, Nat.le_succ _⟩

theorem within_utcNow : Within Supply.Before host.utcNow := by
  refine within_bind host.within_now fun seconds => ?_
  exact within_ret _

variable (supply : Supply)

/-- An identifier is the next of the supply. -/
theorem ensures_newId (kind : String) :
    Ensures (host.newId kind) supply
      (fun identifier later => identifier = host.idText kind supply.nextId ∧
        later = { supply with nextId := supply.nextId + 1 })
      (fun _ _ => False) := by
  simp [newId, ensures_bind, ensures_get, ensures_modify]

theorem ensures_now :
    Ensures host.now supply
      (fun seconds later => seconds = host.clock supply.tick ∧
        later = { supply with tick := supply.tick + 1 })
      (fun _ _ => False) := by
  simp [now, ensures_bind, ensures_get, ensures_modify]

theorem ensures_utcNow :
    Ensures host.utcNow supply
      (fun _ later => later = { supply with tick := supply.tick + 1 })
      (fun _ _ => False) := by
  unfold utcNow
  rw [ensures_bind]
  apply (host.ensures_now supply).mono
  · rintro seconds later ⟨-, rfl⟩
    rfl
  · exact fun _ _ impossible => impossible

end Host

end Urp
