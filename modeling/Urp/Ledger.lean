import Urp.Library.Lines
import Urp.Schema

/-!
# The ledger file

`JSONLLedger` over the bytes of its file.  An append reads the last event
backwards from the end of the file, chains the new event to it, and writes one
line; reading goes forwards over the lines of the decoded text.
-/

namespace Urp

open Python

/-- The ledger file and what its operations draw from. -/
structure LedgerState where
  file : Bytes := []
  supply : Supply := {}

namespace LedgerState

def supplyLens : Lens LedgerState Supply where
  get state := state.supply
  set state supply := { state with supply }
  get_set _ _ := rfl

end LedgerState

/-! ## Events from text -/

/-- `data.get(key)` where a string or `null` stands. -/
def textField (data : List (String × Value)) (key : String) :
    Except PyException (Option String) :=
  match Value.get data key with
  | .none => .ok none
  | .str text => .ok (some text)
  | _ => .error .typeError

/-- `data[key]` where a string stands. -/
def requiredText (data : List (String × Value)) (key : String) :
    Except PyException String :=
  match Entries.lookup data key with
  | some (.str text) => .ok text
  | some _ => .error .typeError
  | none => .error (.keyError key)

/-- `dict(data.get(key) or {})`. -/
def objectField (data : List (String × Value)) (key : String) :
    Except PyException Object :=
  match Value.get data key with
  | .dict entries => .ok (.ofList entries)
  | value => if value.isTruthy then .error .typeError else .ok ∅

/-- `text or draw()`. -/
def orDraw (text : Option String) (draw : Program Supply PyException String) :
    Program Supply PyException String :=
  if textOr text "" = "" then draw else Program.ret (textOr text "")

/-- `LedgerEvent.from_dict`.  The program writes no field of another type;
one would be a `TypeError` here. -/
def LedgerEvent.fromDict (host : Host) (data : List (String × Value)) :
    Program Supply PyException LedgerEvent := do
  let eventType ← Program.lift (requiredText data "event_type")
  let tenant ← Program.lift (requiredText data "tenant")
  let workUnitId ← Program.lift (textField data "work_unit_id")
  let manifestId ← Program.lift (textField data "manifest_id")
  let policyBundleId ← Program.lift (textField data "policy_bundle_id")
  let actor ← Program.lift (textField data "actor")
  let decision ← Program.lift (textField data "decision")
  let details ← Program.lift (objectField data "details")
  let traceId ← Program.lift (textField data "trace_id")
  let prevHash ← Program.lift (textField data "prev_hash")
  let eventId ← Program.lift (textField data "event_id")
  let eventId ← orDraw eventId (host.newId "evt")
  let createdAt ← Program.lift (textField data "created_at")
  let createdAt ← orDraw createdAt host.utcNow
  let eventHash ← Program.lift (textField data "event_hash")
  return {
    eventType, tenant, workUnitId, manifestId, policyBundleId, actor,
    decision, details, traceId, prevHash, eventId, createdAt, eventHash }

/-- `LedgerEvent.from_dict(json.loads(text))`. -/
def parseEvent (host : Host) (text : Option (List Char)) :
    Program Supply PyException LedgerEvent :=
  match text.bind Json.loads with
  | some (.dict data) => LedgerEvent.fromDict host data
  | some _ => Program.raise .typeError
  | none => Program.raise .libraryValueError

/-- The line that an append writes, without its newline. -/
def LedgerEvent.line (event : LedgerEvent) : List Char :=
  Json.dumps .spaced event.toDict

/-! ## Reading -/

/-- Text mode: a `\r\n` or a lone `\r` becomes a newline. -/
def universalNewlines (afterReturn : Bool) : List Char → List Char
  | [] => []
  | c :: rest =>
      if c = '\r' then '\n' :: universalNewlines true rest
      else if c = '\n' ∧ afterReturn then universalNewlines false rest
      else c :: universalNewlines false rest

/-- `line.strip()` is not empty. -/
def hasText (line : List Char) : Bool := line.any fun c => !isSpace c

namespace JSONLLedger

variable (host : Host) (session : Session)

/-- `_read_unlocked`. -/
def readUnlocked : Program LedgerState PyException (List LedgerEvent) := do
  let state ← Program.get
  match decodeUtf8 state.file with
  | none => Program.raise .libraryValueError
  | some text =>
      let lines := (Lines.pieces '\n' (universalNewlines false text)).filter hasText
      Program.forEach lines fun line =>
        Program.focus LedgerState.supplyLens (parseEvent host (some line))

/-- `\r` or `\n`, which `rstrip` takes off the end. -/
def isLineEnd (byte : UInt8) : Bool := byte = 13 || byte = 10

/-- `_last_event_unlocked`, reading blocks of 8192 bytes backwards. -/
def lastEventUnlocked :
    Program LedgerState PyException (Option LedgerEvent) := do
  let state ← Program.get
  let size := state.file.length
  match Lines.readBack 8192 isLineEnd 10 state.file size size [] with
  | none => return none
  | some line => do
      let event ← Program.focus LedgerState.supplyLens
        (parseEvent host (decodeUtf8 line))
      return some event

/-- A principal bound to a tenant only appends that tenant's events. -/
def checkTenant (tenant : String) : Except PyException Unit :=
  requireTenant session tenant

def append (event : LedgerEvent) :
    Program LedgerState PyException LedgerEvent := do
  Program.lift (checkTenant session event.tenant)
  let previous ← lastEventUnlocked host
  let chained := event.withChainHash (previous.bind LedgerEvent.eventHash)
  Program.lift (validateLedgerEvent host chained)
  -- `json.dumps` without `default` refuses byte strings.
  if chained.details.toValue.hasBytes then
    Program.raise .typeError
  else do
    Program.modify fun state =>
      { state with file := state.file ++ utf8 (chained.line ++ ['\n']) }
    return chained

def read : Program LedgerState PyException (List LedgerEvent) := do
  let rows ← readUnlocked host
  match session.currentTenant with
  | none | some "" => return rows
  | some tenant => return rows.filter fun event => event.tenant = tenant

/-- Whether each event names its predecessor's hash and hashes to its own. -/
def isChain : Option String → List LedgerEvent → Bool
  | _, [] => true
  | previous, event :: rest =>
      event.prevHash == previous &&
        event.eventHash == (event.withChainHash event.prevHash).eventHash &&
        isChain event.eventHash rest

def verifyChain : Program LedgerState PyException Bool := do
  let events ← readUnlocked host
  return isChain none events

/-- Draw the identifier and the time of a new event. -/
def stamp (event : LedgerEvent) : Program Supply PyException LedgerEvent := do
  let eventId ← host.newId "evt"
  let createdAt ← host.utcNow
  return { event with eventId, createdAt }

/-- `ledger.append(LedgerEvent(...))`. -/
def record (event : LedgerEvent) :
    Program LedgerState PyException LedgerEvent := do
  let event ← Program.focus LedgerState.supplyLens (stamp host event)
  append host session event

end JSONLLedger

/-! ## Drawing from the supply -/

section Drawing

open Program

variable (host : Host)

theorem within_orDraw {text : Option String}
    {draw : Program Supply PyException String}
    (inner : Within Supply.Before draw) :
    Within Supply.Before (orDraw text draw) :=
  within_ite inner (within_ret _)

theorem LedgerEvent.within_fromDict (data : List (String × Value)) :
    Within Supply.Before (LedgerEvent.fromDict host data) := by
  unfold LedgerEvent.fromDict
  repeat
    first
    | refine within_bind (within_lift _) fun _ => ?_
    | refine within_bind (within_orDraw (host.within_newId _)) fun _ => ?_
    | refine within_bind (within_orDraw host.within_utcNow) fun _ => ?_
  exact within_ret _

theorem within_parseEvent (text : Option (List Char)) :
    Within Supply.Before (parseEvent host text) := by
  unfold parseEvent
  split
  · exact LedgerEvent.within_fromDict host _
  · exact within_raise _
  · exact within_raise _

/-- The supply is only drawn from. -/
def LedgerState.Drawn (state later : LedgerState) : Prop :=
  state.supply.Before later.supply

instance : IsPreorder LedgerState LedgerState.Drawn where
  refl state := .refl state.supply
  trans _ _ _ := .trans

theorem LedgerState.drawn_focus {α : Type}
    {body : Program Supply PyException α} (inner : Within Supply.Before body) :
    Within LedgerState.Drawn (focus LedgerState.supplyLens body) :=
  within_focus inner fun _ _ drawn => drawn

namespace JSONLLedger

variable (session : Session)

theorem drawn_lastEventUnlocked :
    Within LedgerState.Drawn (lastEventUnlocked host) := by
  refine within_bind within_get fun state => ?_
  dsimp only
  split
  · exact within_ret _
  · refine within_bind ?_ fun event => within_ret _
    exact LedgerState.drawn_focus (within_parseEvent host _)

theorem drawn_append (event : LedgerEvent) :
    Within LedgerState.Drawn (append host session event) := by
  refine within_bind (within_lift _) fun _ => ?_
  refine within_bind (drawn_lastEventUnlocked host) fun previous => ?_
  refine within_bind (within_lift _) fun _ => ?_
  apply within_ite
  · exact within_raise _
  · refine within_bind ?_ fun _ => within_ret _
    exact within_modify fun state => .refl state.supply

theorem drawn_record (event : LedgerEvent) :
    Within LedgerState.Drawn (record host session event) := by
  have stamped : Within Supply.Before (stamp host event) := by
    refine within_bind (host.within_newId _) fun eventId => ?_
    exact within_bind host.within_utcNow fun createdAt => within_ret _
  refine within_bind (LedgerState.drawn_focus stamped) fun stamped => ?_
  exact drawn_append host session stamped

end JSONLLedger

end Drawing

end Urp
