import Urp.Progress
import Urp.RecordReaders

/-!
# Records written and read back

`from_dict` builds a record again from the dictionary that it was written as,
but for the fields where the reader takes an empty value for a missing one.
-/

namespace Urp

open Python Program

/-! ## Plain parts -/

theorem IsPlain.of_mem_list {items : List Value} {item : Value}
    (plain : IsPlain (.list items)) (member : item ∈ items) : IsPlain item := by
  induction items with
  | nil => cases member
  | cons first rest ih =>
      obtain ⟨json, nanFree⟩ := plain
      simp only [Value.isJson, Value.isJsonList, Bool.and_eq_true] at json
      simp only [Value.isNanFree, Value.isNanFreeList, Bool.and_eq_true]
        at nanFree
      rcases List.mem_cons.mp member with rfl | later
      · exact ⟨json.1, nanFree.1⟩
      · exact ih ⟨json.2, nanFree.2⟩ later

theorem IsPlain.of_lookup {entries : List (String × Value)} {key : String}
    {value : Value} (plain : IsPlain (.dict entries))
    (found : Entries.lookup entries key = some value) : IsPlain value := by
  have member := Entries.lookup_mem found
  obtain ⟨json, nanFree⟩ := plain
  simp only [Value.isJson, Bool.and_eq_true, Value.isJsonEntries_iff] at json
  refine ⟨json.2 _ member, ?_⟩
  simp only [Value.isNanFree] at nanFree
  clear found json
  induction entries with
  | nil => cases member
  | cons entry rest ih =>
      obtain ⟨name, first⟩ := entry
      simp only [Value.isNanFreeEntries, Bool.and_eq_true] at nanFree
      rcases List.mem_cons.mp member with same | later
      · cases same
        exact nanFree.1
      · exact ih later nanFree.2

theorem IsPlain.pyEq_sorted {value : Value} (plain : IsPlain value) :
    Value.pyEq value.sorted value = true :=
  Value.pyEq_sorted value plain.1 plain.2

theorem Value.isTruthy_sorted (value : Value) :
    value.sorted.isTruthy = value.isTruthy := by
  cases value with
  | list items => cases items <;> rfl
  | dict entries =>
      have sizes : ((Value.sortedEntries entries).insertionSort
          fun p q => p.1 ≤ q.1).length = entries.length := by
        rw [List.length_insertionSort, Value.sortedEntries_eq_map,
          List.length_map]
      simp only [Value.sorted, Value.isTruthy]
      rw [Bool.eq_iff_iff]
      simp only [Bool.not_eq_true', List.isEmpty_eq_false_iff_exists_mem,
        ← List.length_pos_iff_exists_mem, sizes]
  | _ => rfl

@[simp] theorem Value.sorted_str (text : String) :
    (Value.str text).sorted = .str text := rfl

namespace JsonRecords

/-- The entries of a dictionary that was written and read. -/
def written (fields : List (String × Value)) : List (String × Value) :=
  (Value.sortedEntries fields).insertionSort fun p q => p.1 ≤ q.1

section Fields

variable {fields : List (String × Value)} {key : String} {value : Value}

/-- The data is a dictionary of plain fields that was written and read. -/
structure Rereads (fields data : List (String × Value)) : Prop where
  required : ∀ key value, Entries.lookup fields key = some value →
    required data key = .ok value.sorted
  get : ∀ key value, Entries.lookup fields key = some value →
    Value.get data key = value.sorted
  getD : ∀ key value default, Entries.lookup fields key = some value →
    Value.getD data key default = value.sorted
  plain : ∀ key value, Entries.lookup fields key = some value → IsPlain value

theorem rereads_written (plain : IsPlain (.dict fields)) :
    Rereads fields (written fields) := by
  have distinct : (fields.map Prod.fst).Nodup := by
    have json := plain.1
    simp only [Value.isJson, Bool.and_eq_true, decide_eq_true_eq] at json
    exact json.1
  have lookups : ∀ key value, Entries.lookup fields key = some value →
      Entries.lookup (written fields) key = some value.sorted := by
    intro key value found
    rw [written, lookup_sorted distinct, found]
    rfl
  constructor
  · intro key value found
    simp only [JsonRecords.required, lookups key value found]
  · intro key value found
    simp only [Value.get, Value.getD, lookups key value found,
      Option.getD_some]
  · intro key value default found
    simp only [Value.getD, lookups key value found, Option.getD_some]
  · exact fun key value found => plain.of_lookup found

theorem Rereads.kept {data : List (String × Value)}
    (rereads : Rereads fields data) (key : String) (value : Value)
    (found : Entries.lookup fields key = some value) :
    Value.pyEq value.sorted value = true :=
  (rereads.plain key value found).pyEq_sorted

theorem kindOf_value (kind : WorkUnitKind) :
    kindOf (.str kind.value) = .ok kind := by
  cases kind <;> rfl

theorem contractOf_value (contract : Contract) :
    contractOf (.str contract.value) = .ok contract := by
  cases contract <;> rfl

theorem contractOrNone_value (contract : Option Contract) :
    contractOrNone (contractValue contract).sorted = .ok contract := by
  cases contract with
  | none => rfl
  | some contract => cases contract <;> rfl

/-! ## Values that a reader may replace -/

/-- A text that is drawn stands for no empty value. -/
theorem pyEq_text_of_falsy {text : String} (given : text ≠ "")
    (falsy : value.isTruthy = false) : Value.pyEq (.str text) value = false := by
  cases value with
  | str other =>
      have empty : other = "" := by simpa [Value.isTruthy] using falsy
      simpa [Value.pyEq, empty] using given
  | _ => simp [Value.pyEq, Value.number?]

/-- `value or draw()` keeps exactly what is truthy. -/
theorem ensures_orDraw (plain : IsPlain value)
    {draw : Program Supply PyException String} {supply : Supply}
    (drawn : Ensures draw supply (fun text _ => text ≠ "") fun _ _ => False) :
    Ensures (orDraw value.sorted draw) supply
      (fun kept _ => Value.pyEq kept value = value.isTruthy)
      (fun _ _ => False) := by
  unfold orDraw
  rw [Value.isTruthy_sorted]
  cases truthy : value.isTruthy with
  | true => exact plain.pyEq_sorted
  | false =>
      simp only [Bool.false_eq_true, if_false, ensures_bind]
      apply drawn.mono
      · intro text _ given
        exact pyEq_text_of_falsy given truthy
      · exact fun _ _ impossible => impossible

/-- `dict(value or {})` keeps exactly what is a dictionary. -/
theorem dictOf_sorted (plain : IsPlain value) :
    (∀ kept, dictOf value.sorted = .ok kept →
        Value.pyEq kept value = isObject value) ∧
      ∀ error, dictOf value.sorted = .error error → isObject value = false := by
  unfold dictOf
  rw [Value.isTruthy_sorted]
  cases truthy : value.isTruthy with
  | true =>
      cases value with
      | dict entries =>
          refine ⟨fun kept run => ?_, nofun⟩
          cases run
          exact plain.pyEq_sorted
      | _ => exact ⟨nofun, fun _ _ => rfl⟩
  | false =>
      refine ⟨fun kept run => ?_, nofun⟩
      cases run
      cases value with
      | dict entries =>
          cases entries with
          | nil => rfl
          | cons entry rest => cases truthy
      | _ => simp [Value.pyEq, Value.number?, isObject]

theorem dictOf_isObject (plain : IsPlain value) (object : isObject value = true) :
    ∃ kept, dictOf value.sorted = .ok kept ∧ Value.pyEq kept value = true := by
  obtain ⟨keeps, raises⟩ := dictOf_sorted plain
  cases run : dictOf value.sorted with
  | ok kept => exact ⟨kept, rfl, (keeps kept run).trans object⟩
  | error error =>
      rw [raises error run] at object
      cases object

theorem listOf_isObjectArray (plain : IsPlain value)
    (array : isObjectArray value = true) :
    ∃ kept, listOf value.sorted = .ok kept ∧ Value.pyEq kept value = true := by
  unfold listOf
  rw [Value.isTruthy_sorted]
  cases value with
  | list items =>
      cases items with
      | nil => exact ⟨_, rfl, rfl⟩
      | cons item rest => exact ⟨_, rfl, plain.pyEq_sorted⟩
  | _ => cases array

/-- An integer stays what it is, also one that is written as a float. -/
theorem intOf_isBudget (budget : isBudget value = true) :
    ∃ kept, intOf value.sorted = .ok kept ∧ Value.pyEq kept value = true := by
  cases value with
  | none => exact ⟨_, rfl, rfl⟩
  | int n => exact ⟨_, rfl, by simp [Value.pyEq, Value.number?]⟩
  | float f =>
      cases f with
      | finite text =>
          refine ⟨_, rfl, ?_⟩
          simp only [isBudget, isInteger, Bool.and_eq_true, beq_iff_eq] at budget
          have whole : ((text.toRat.num.tdiv text.toRat.den : Int) : ℚ) =
              text.toRat := by
            rw [budget.1, Nat.cast_one, Int.tdiv_one]
            exact Rat.coe_int_num_of_den_eq_one budget.1
          simp [Value.pyEq, Value.number?, PyFloat.number?, whole]
      | _ => cases budget
  | _ => cases budget

theorem valid_of_validateNamedSchema {schema : String} {valid : Bool}
    {result : Unit} (checked : validateNamedSchema schema valid = .ok result) :
    valid = true := by
  unfold validateNamedSchema at checked
  split at checked
  · assumption
  · cases checked

/-- A property that the schema checks. -/
theorem valid_of_isObjectOf {properties : List Records.Property}
    {property : Records.Property}
    (valid : Records.isObjectOf properties (.dict fields) = true)
    (member : property ∈ properties)
    (found : Entries.lookup fields property.key = some value) :
    property.valid value = true := by
  simp only [Records.isObjectOf, Bool.and_eq_true, List.all_eq_true] at valid
  have checked := valid.1 property member
  rw [found] at checked
  exact checked

theorem isTruthy_of_isId {start : String} (begins : start ≠ "")
    (is : isId start value = true) : value.isTruthy = true := by
  cases value with
  | str text =>
      have filled : text ≠ "" := by
        rintro rfl
        have parts : start.toList.isPrefixOf [] = true := by
          simp only [isId, matchesIdPattern, Bool.and_eq_true] at is
          exact is.1
        cases opened : start.toList with
        | nil => exact begins (String.toList_inj.mp opened)
        | cons c rest =>
            rw [opened] at parts
            cases parts
      simpa [Value.isTruthy] using filled
  | _ => cases is

end Fields

theorem ensures_newId (host : Host) (kind : String) (supply : Supply) :
    Ensures (host.newId kind) supply (fun text _ => text ≠ "")
      fun _ _ => False := by
  apply (host.ensures_newId supply kind).mono
  · rintro _ _ ⟨rfl, -⟩ empty
    have texts := congrArg String.toList empty
    simp [Host.idText, String.toList_append] at texts
  · exact fun _ _ impossible => impossible

theorem ensures_utcNow {host : Host} (reliable : host.Reliable)
    (supply : Supply) :
    Ensures host.utcNow supply (fun text _ => text ≠ "") fun _ _ => False := by
  have run : host.utcNow supply = (.ok (host.isoformat (host.clock supply.tick)),
    { supply with tick := supply.tick + 1 }) := rfl
  apply (ensures_of_run run).mpr
  intro empty
  have format := reliable.dateTime (host.clock supply.tick)
  rw [empty] at format
  exact absurd format (by decide)

/-! ## Work units -/

namespace WorkUnit

variable {host : Host} {session : Session} {workUnit : WorkUnit}

/-- What the reader does not replace. -/
def survives (workUnit : WorkUnit) : Bool :=
  workUnit.traceId.isTruthy && workUnit.createdAt.isTruthy &&
    isObject workUnit.qualityTarget

structure Admitted (workUnit : WorkUnit) : Prop where
  metadata : isObject workUnit.metadata = true
  policyContext : isObject workUnit.policyContext = true
  budget : isBudget workUnit.latencyBudgetMs = true
  id : workUnit.id.isTruthy = true

theorem admitted_of_accept (accepted : workUnit.accept host session = .ok ()) :
    workUnit.Admitted := by
  unfold accept at accepted
  obtain ⟨_, -, checks⟩ := except_bind_eq_ok_iff.mp accepted
  obtain ⟨_, validated, -⟩ := except_bind_eq_ok_iff.mp checks
  have valid : Records.isObjectOf (workUnitProperties host) (.dict (toDict { workUnit with
      payload := encodeJsonValue workUnit.payload })) = true :=
    valid_of_validateNamedSchema validated
  have id : isId "wu_" workUnit.id = true :=
    @valid_of_isObjectOf _ _ _ ⟨"id", true, isId "wu_"⟩ valid
      (by simp [workUnitProperties]) rfl
  constructor
  · exact @valid_of_isObjectOf _ _ _ ⟨"metadata", false, isObject⟩ valid
      (by simp [workUnitProperties]) rfl
  · exact @valid_of_isObjectOf _ _ _ ⟨"policy_context", false, isObject⟩ valid
      (by simp [workUnitProperties]) rfl
  · exact @valid_of_isObjectOf _ _ _ ⟨"latency_budget_ms", false, isBudget⟩
      valid
      (by simp [workUnitProperties]) rfl
  · exact isTruthy_of_isId (by decide) id

/-- Reading a work unit that was written yields an equal one exactly if none of
its fields is replaced. -/
theorem ensures_fromDict (reliable : host.Reliable)
    {data : List (String × Value)} (rereads : Rereads workUnit.toDict data)
    (admitted : workUnit.Admitted) (supply : Supply) :
    Ensures (fromDict host data) supply
      (fun found _ => found.pyEq workUnit = workUnit.survives)
      (fun _ _ => workUnit.survives = false) := by
  have plain := rereads.plain
  have reads := rereads.get
  have requires := rereads.required
  have kept := rereads.kept
  obtain ⟨metadata, metadataRun, metadataEq⟩ :=
    dictOf_isObject (plain "metadata" _ rfl) admitted.metadata
  obtain ⟨context, contextRun, contextEq⟩ :=
    dictOf_isObject (plain "policy_context" _ rfl) admitted.policyContext
  obtain ⟨budget, budgetRun, budgetEq⟩ := intOf_isBudget admitted.budget
  unfold fromDict
  rw [requires "kind" (.str workUnit.kind.value) rfl, lift_ok_bind,
    Value.sorted_str, kindOf_value, lift_ok_bind,
    requires "tenant" workUnit.tenant rfl, lift_ok_bind,
    requires "logical_ref" workUnit.logicalRef rfl, lift_ok_bind,
    reads "requested_contract" (contractValue workUnit.requestedContract) rfl,
    contractOrNone_value, lift_ok_bind,
    reads "metadata" workUnit.metadata rfl, metadataRun, lift_ok_bind,
    reads "policy_context" workUnit.policyContext rfl, contextRun, lift_ok_bind,
    reads "trace_id" workUnit.traceId rfl, ensures_bind]
  apply (ensures_orDraw (plain "trace_id" workUnit.traceId rfl)
    (ensures_newId host "tr" supply)).mono _ fun _ _ impossible =>
      impossible.elim
  intro traceId later traceEq
  rw [reads "id" workUnit.id rfl, ensures_bind]
  apply (ensures_orDraw (plain "id" workUnit.id rfl)
    (ensures_newId host "wu" later)).mono _ fun _ _ impossible =>
      impossible.elim
  intro id later idEq
  rw [reads "created_at" workUnit.createdAt rfl, ensures_bind]
  apply (ensures_orDraw (plain "created_at" workUnit.createdAt rfl)
    (ensures_utcNow reliable later)).mono _ fun _ _ impossible =>
      impossible.elim
  intro createdAt later createdEq
  rw [reads "effective_contract" (contractValue workUnit.effectiveContract) rfl,
    contractOrNone_value, lift_ok_bind,
    reads "latency_budget_ms" workUnit.latencyBudgetMs rfl, budgetRun,
    lift_ok_bind, reads "quality_target" workUnit.qualityTarget rfl,
    ensures_bind, ensures_lift]
  obtain ⟨targetKept, targetRaised⟩ :=
    dictOf_sorted (plain "quality_target" workUnit.qualityTarget rfl)
  constructor
  · intro target targetRun
    simp only [pure_eq_ret, ensures_ret, pyEq, survives, beq_self_eq_true,
      kept "tenant" workUnit.tenant rfl,
      kept "logical_ref" workUnit.logicalRef rfl,
      reads "payload" workUnit.payload rfl,
      kept "payload" workUnit.payload rfl,
      rereads.getD "namespace" workUnit.nameSpace _ rfl,
      kept "namespace" workUnit.nameSpace rfl,
      metadataEq, contextEq, traceEq, idEq, admitted.id, createdEq,
      reads "payload_ref" workUnit.payloadRef rfl,
      kept "payload_ref" workUnit.payloadRef rfl,
      reads "deadline" workUnit.deadline rfl,
      kept "deadline" workUnit.deadline rfl,
      budgetEq, targetKept target targetRun, Bool.and_true, Bool.true_and]
  · intro error targetRun
    rw [survives, targetRaised error targetRun, Bool.and_false]

end WorkUnit

/-! ## Manifests -/

namespace Manifest

variable {host : Host} {session : Session} {manifest : Manifest}

/-- What the reader does not replace. -/
def survives (manifest : Manifest) : Bool :=
  manifest.nameSpace.isTruthy && manifest.createdAt.isTruthy

/-- The dictionaries of a manifest, by their keys. -/
def objects (manifest : Manifest) : List (String × Value) :=
  [("policy", manifest.policy), ("classification", manifest.classification),
    ("physical", manifest.physical), ("plan", manifest.plan),
    ("verification", manifest.verification), ("lineage", manifest.lineage),
    ("telemetry", manifest.telemetry)]

structure Admitted (manifest : Manifest) : Prop where
  objects : ∀ key value, (key, value) ∈ manifest.objects →
    isObject value = true
  signatures : isObjectArray manifest.signatures = true
  manifestId : manifest.manifestId.isTruthy = true

theorem admitted_of_accept
    (accepted : manifest.accept host session = .ok ()) : manifest.Admitted := by
  unfold accept at accepted
  obtain ⟨_, -, checks⟩ := except_bind_eq_ok_iff.mp accepted
  obtain ⟨_, validated, -⟩ := except_bind_eq_ok_iff.mp checks
  have valid : Records.isObjectOf (manifestProperties host)
      (.dict manifest.toDict) = true :=
    valid_of_validateNamedSchema validated
  have id : isId "mf_" manifest.manifestId = true :=
    @valid_of_isObjectOf _ _ _ ⟨"manifest_id", true, isId "mf_"⟩ valid
      (by simp [manifestProperties]) rfl
  constructor
  · intro key value member
    have checked : Entries.lookup manifest.toDict key = some value ∧
        ⟨key, false, isObject⟩ ∈ manifestProperties host := by
      simp only [objects, List.mem_cons, Prod.mk.injEq, List.not_mem_nil,
        or_false] at member
      rcases member with ⟨rfl, rfl⟩ | ⟨rfl, rfl⟩ | ⟨rfl, rfl⟩ | ⟨rfl, rfl⟩ |
        ⟨rfl, rfl⟩ | ⟨rfl, rfl⟩ | ⟨rfl, rfl⟩ <;>
        exact ⟨rfl, by simp [manifestProperties]⟩
    exact valid_of_isObjectOf valid checked.2 checked.1
  · exact @valid_of_isObjectOf _ _ _ ⟨"signatures", false, isObjectArray⟩ valid
      (by simp [manifestProperties]) rfl
  · exact isTruthy_of_isId (by decide) id

theorem ensures_fromDict (reliable : host.Reliable)
    {data : List (String × Value)} (rereads : Rereads manifest.toDict data)
    (admitted : manifest.Admitted) (supply : Supply) :
    Ensures (fromDict host data) supply
      (fun found _ => found.pyEq manifest = manifest.survives)
      (fun _ _ => manifest.survives = false) := by
  have plain := rereads.plain
  have reads := rereads.get
  have defaults := rereads.getD
  have requires := rereads.required
  have kept := rereads.kept
  have object : ∀ key value, (key, value) ∈ manifest.objects →
      Entries.lookup manifest.toDict key = some value →
        ∃ again, dictOf (Value.get data key) = .ok again ∧
          Value.pyEq again value = true := by
    intro key value member found
    rw [reads key value found]
    exact dictOf_isObject (plain key value found)
      (admitted.objects key value member)
  obtain ⟨policy, policyRun, policyEq⟩ :=
    object "policy" manifest.policy (by simp [objects]) rfl
  obtain ⟨classification, classificationRun, classificationEq⟩ :=
    object "classification" manifest.classification (by simp [objects]) rfl
  obtain ⟨physical, physicalRun, physicalEq⟩ :=
    object "physical" manifest.physical (by simp [objects]) rfl
  obtain ⟨plan, planRun, planEq⟩ :=
    object "plan" manifest.plan (by simp [objects]) rfl
  obtain ⟨verification, verificationRun, verificationEq⟩ :=
    object "verification" manifest.verification (by simp [objects]) rfl
  obtain ⟨lineage, lineageRun, lineageEq⟩ :=
    object "lineage" manifest.lineage (by simp [objects]) rfl
  obtain ⟨telemetry, telemetryRun, telemetryEq⟩ :=
    object "telemetry" manifest.telemetry (by simp [objects]) rfl
  obtain ⟨signatures, signaturesRun, signaturesEq⟩ :=
    listOf_isObjectArray (plain "signatures" manifest.signatures rfl)
      admitted.signatures
  unfold fromDict
  rw [requires "work_unit_id" manifest.workUnitId rfl, lift_ok_bind,
    requires "tenant" manifest.tenant rfl, lift_ok_bind,
    requires "kind" (.str manifest.kind.value) rfl, lift_ok_bind,
    Value.sorted_str, kindOf_value, lift_ok_bind,
    requires "contract" (.str manifest.contract.value) rfl, lift_ok_bind,
    Value.sorted_str, contractOf_value, lift_ok_bind,
    reads "namespace" manifest.nameSpace rfl, ensures_bind]
  have default : Ensures (Program.ret "default" : Program Supply PyException
      String) supply (fun text _ => text ≠ "") fun _ _ => False :=
    ensures_ret.mpr (by decide)
  apply (ensures_orDraw (plain "namespace" manifest.nameSpace rfl)
    default).mono _ fun _ _ impossible => impossible.elim
  intro nameSpace later nameSpaceEq
  rw [policyRun, lift_ok_bind, classificationRun, lift_ok_bind, physicalRun,
    lift_ok_bind, planRun, lift_ok_bind, verificationRun, lift_ok_bind,
    lineageRun, lift_ok_bind, telemetryRun, lift_ok_bind,
    reads "signatures" manifest.signatures rfl, signaturesRun, lift_ok_bind,
    reads "manifest_id" manifest.manifestId rfl, ensures_bind]
  apply (ensures_orDraw (plain "manifest_id" manifest.manifestId rfl)
    (ensures_newId host "mf" later)).mono _ fun _ _ impossible =>
      impossible.elim
  intro manifestId later manifestIdEq
  rw [reads "created_at" manifest.createdAt rfl, ensures_bind]
  apply (ensures_orDraw (plain "created_at" manifest.createdAt rfl)
    (ensures_utcNow reliable later)).mono _ fun _ _ impossible =>
      impossible.elim
  intro createdAt later createdEq
  simp only [pure_eq_ret, ensures_ret, pyEq, survives, beq_self_eq_true,
    kept "work_unit_id" manifest.workUnitId rfl,
    kept "tenant" manifest.tenant rfl,
    defaults "logical_ref" manifest.logicalRef _ rfl,
    kept "logical_ref" manifest.logicalRef rfl,
    defaults "state" manifest.state _ rfl, kept "state" manifest.state rfl,
    nameSpaceEq, reads "trace_id" manifest.traceId rfl,
    kept "trace_id" manifest.traceId rfl, policyEq, classificationEq,
    physicalEq, planEq, verificationEq, lineageEq, telemetryEq, signaturesEq,
    defaults "manifest_version" manifest.manifestVersion _ rfl,
    kept "manifest_version" manifest.manifestVersion rfl, manifestIdEq,
    admitted.manifestId, createdEq, Bool.and_true, Bool.true_and]

end Manifest

/-! ## Plans -/

namespace PlanAction

/-- What the reader does not replace. -/
def survives (action : PlanAction) : Bool :=
  Value.pyEq (.bool action.required.isTruthy) action.required &&
    isObject action.params

theorem fromDict_cases {action : PlanAction} {data : List (String × Value)}
    (rereads : Rereads action.toDict data) :
    (∀ found, fromDict data = .ok found →
        found.pyEq action = action.survives) ∧
      ∀ error, fromDict data = .error error → action.survives = false := by
  obtain ⟨keeps, raises⟩ := dictOf_sorted (rereads.plain "params" _ rfl)
  unfold fromDict
  rw [rereads.required "type" action.type rfl,
    rereads.get "params" action.params rfl]
  cases run : dictOf action.params.sorted with
  | error error =>
      refine ⟨nofun, fun _ _ => ?_⟩
      rw [survives, raises error run, Bool.and_false]
  | ok params =>
      refine ⟨fun found same => ?_, nofun⟩
      cases same
      simp only [pyEq, survives, rereads.kept "type" action.type rfl,
        rereads.getD "required" action.required _ rfl, Value.isTruthy_sorted,
        rereads.getD "risk" action.risk _ rfl,
        rereads.kept "risk" action.risk rfl, keeps params run,
        rereads.getD "reason" action.reason _ rfl,
        rereads.kept "reason" action.reason rfl, Bool.and_true, Bool.true_and]

/-- The actions of a list read back if each of them does. -/
theorem mapM_cases {actions : List PlanAction}
    (plain : ∀ action ∈ actions, IsPlain (.dict action.toDict)) :
    let rows := Value.sortedList (actions.map fun action => .dict action.toDict)
    (∀ found, rows.mapM fromRow = .ok found →
        pyEqList found actions = actions.all survives) ∧
      ∀ error, rows.mapM fromRow = .error error →
        actions.all survives = false := by
  intro rows
  induction actions with
  | nil =>
      refine ⟨fun found same => ?_, nofun⟩
      cases same
      rfl
  | cons action rest ih =>
      obtain ⟨restKeeps, restRaises⟩ := ih fun other member =>
        plain other (List.mem_cons_of_mem _ member)
      obtain ⟨keeps, raises⟩ := fromDict_cases
        (rereads_written (plain action List.mem_cons_self))
      have first : rows.mapM fromRow = (do
          let found ← fromDict (written action.toDict)
          let others ← (Value.sortedList
            (rest.map fun action => .dict action.toDict)).mapM fromRow
          pure (found :: others)) := List.mapM_cons
      rw [first, List.all_cons]
      cases run : fromDict (written action.toDict) with
      | error error =>
          refine ⟨nofun, fun _ _ => ?_⟩
          rw [raises error run, Bool.false_and]
      | ok found =>
          cases restRun : (Value.sortedList
              (rest.map fun action => .dict action.toDict)).mapM fromRow with
          | error error =>
              refine ⟨nofun, fun _ _ => ?_⟩
              rw [restRaises error restRun, Bool.and_false]
          | ok others =>
              refine ⟨fun whole same => ?_, nofun⟩
              cases same
              rw [pyEqList, keeps found run, restKeeps others restRun]

end PlanAction

namespace Plan

variable {host : Host} {session : Session} {plan : Plan}

/-- What the reader does not replace. -/
def survives (plan : Plan) : Bool :=
  plan.actions.all PlanAction.survives && isObject plan.expected

theorem planId_of_accept (accepted : plan.accept host session = .ok ()) :
    plan.planId.isTruthy = true := by
  unfold accept at accepted
  obtain ⟨_, -, named⟩ := except_bind_eq_ok_iff.mp accepted
  unfold checkIdentifier at named
  split at named
  · rename_i text same
    obtain ⟨_, checked, -⟩ := except_bind_eq_ok_iff.mp named
    have identifier := (validateIdentifier_eq_ok checked).2
    have filled : text ≠ "" := by
      rintro rfl
      cases identifier
    rw [same]
    simpa [Value.isTruthy] using filled
  · cases named

theorem ensures_fromDict {data : List (String × Value)}
    (rereads : Rereads plan.toDict data)
    (named : plan.planId.isTruthy = true) (supply : Supply) :
    Ensures (fromDict host data) supply
      (fun found _ => found.pyEq plan = plan.survives)
      (fun _ _ => plan.survives = false) := by
  have plain := rereads.plain
  have reads := rereads.get
  have defaults := rereads.getD
  have requires := rereads.required
  have kept := rereads.kept
  have rows := plain "actions"
    (.list (plan.actions.map fun action => .dict action.toDict)) rfl
  obtain ⟨actionsKept, actionsRaised⟩ := @PlanAction.mapM_cases plan.actions
    fun action member => rows.of_mem_list (List.mem_map_of_mem member)
  obtain ⟨expectedKept, expectedRaised⟩ :=
    dictOf_sorted (plain "expected" plan.expected rfl)
  unfold fromDict
  rw [requires "work_unit_id" plan.workUnitId rfl, lift_ok_bind,
    requires "contract" (.str plan.contract.value) rfl, lift_ok_bind,
    Value.sorted_str, contractOf_value, lift_ok_bind,
    defaults "actions"
      (.list (plan.actions.map fun action => .dict action.toDict)) _ rfl,
    Value.sorted, actionsOf, ensures_bind, ensures_lift]
  refine ⟨fun actions actionsRun => ?_, fun error actionsRun => ?_⟩
  swap
  · rw [survives, actionsRaised error actionsRun, Bool.false_and]
  rw [reads "plan_id" plan.planId rfl, ensures_bind]
  apply (ensures_orDraw (plain "plan_id" plan.planId rfl)
    (ensures_newId host "pl" supply)).mono _ fun _ _ impossible =>
      impossible.elim
  intro planId later planIdEq
  rw [reads "expected" plan.expected rfl, ensures_bind, ensures_lift]
  refine ⟨fun expected expectedRun => ?_, fun error expectedRun => ?_⟩
  swap
  · rw [survives, expectedRaised error expectedRun, Bool.and_false]
  simp only [pure_eq_ret, ensures_ret, pyEq, survives, beq_self_eq_true,
    kept "work_unit_id" plan.workUnitId rfl, actionsKept actions actionsRun,
    reads "tenant" plan.tenant rfl, kept "tenant" plan.tenant rfl, planIdEq,
    named, reads "trace_id" plan.traceId rfl, kept "trace_id" plan.traceId rfl,
    defaults "mode" plan.mode _ rfl, kept "mode" plan.mode rfl,
    defaults "policy_bundle_id" plan.policyBundleId _ rfl,
    kept "policy_bundle_id" plan.policyBundleId rfl,
    defaults "risk" plan.risk _ rfl, kept "risk" plan.risk rfl,
    expectedKept expected expectedRun, defaults "fallback" plan.fallback _ rfl,
    kept "fallback" plan.fallback rfl, Bool.and_true, Bool.true_and]

end Plan

/-! ## Events -/

section Events

variable {host : Host} {session : Session} {event : LedgerEvent}

theorem eventId_of_accept {previous : Option String}
    (accepted : acceptEvent host session previous event = .ok ()) :
    event.eventId ≠ "" := by
  unfold acceptEvent at accepted
  obtain ⟨_, -, validated⟩ := except_bind_eq_ok_iff.mp accepted
  have valid : isValidLedgerEvent host (event.withChainHash previous) = true :=
    valid_of_validateNamedSchema validated
  simp only [isValidLedgerEvent, Bool.and_eq_true] at valid
  have id : isId "evt_" (.str event.eventId) = true := valid.1.1
  have truthy := isTruthy_of_isId (by decide) id
  simpa [Value.isTruthy] using truthy

/-- Reading an event that was written yields an equal one exactly if it has a
time. -/
theorem ensures_fromDict_event (reliable : host.Reliable)
    (plain : IsPlain (.dict event.fields)) (named : event.eventId ≠ "")
    {data : List (String × Value)} (reread : written event.fields = data)
    (supply : Supply) :
    Ensures (LedgerEvent.fromDict host data) supply
      (fun found _ => found.pyEq event = (event.createdAt != ""))
      (fun _ _ => False) := by
  have details : IsPlain event.details.toValue :=
    plain.of_lookup (rfl : Entries.lookup event.fields "details" = _)
  have again : ∀ createdAt, LedgerEvent.pyEq { event.canonical with
      eventId := event.eventId, createdAt } event =
        (createdAt == event.createdAt) := by
    intro createdAt
    simp [LedgerEvent.pyEq, LedgerEvent.canonical, Object.toValue_sorted,
      details.pyEq_sorted]
  rw [← reread, written, LedgerEvent.fromDict_sorted,
    LedgerEvent.orDraw_of_ne _ named, ret_bind, ensures_bind]
  by_cases dated : event.createdAt = ""
  · have drawn : Urp.orDraw (some event.createdAt) host.utcNow =
        host.utcNow := by
      rw [Urp.orDraw, dated]
      rfl
    rw [drawn]
    apply (ensures_utcNow reliable supply).mono
    · intro createdAt _ given
      rw [ensures_ret, again, dated]
      simpa using given
    · exact fun _ _ impossible => impossible
  · rw [LedgerEvent.orDraw_of_ne _ dated, ensures_ret, ensures_ret, again]
    simpa using dated

end Events

/-! ## All records -/

/-- A record of one of the four kinds. -/
inductive Record where
  | workUnit (row : WorkUnit)
  | plan (row : Plan)
  | manifest (row : Manifest)
  | event (row : LedgerEvent)

namespace Record

/-- `to_dict`. -/
def toDict : Record → List (String × Value)
  | workUnit row => row.toDict
  | plan row => row.toDict
  | manifest row => row.toDict
  | event row => row.fields

/-- `from_dict` of the record's class. -/
def reader (host : Host) (data : List (String × Value)) :
    Record → Program Supply PyException Record
  | workUnit _ => do
      let row ← WorkUnit.fromDict host data
      return workUnit row
  | plan _ => do
      let row ← Plan.fromDict host data
      return plan row
  | manifest _ => do
      let row ← Manifest.fromDict host data
      return manifest row
  | event _ => do
      let row ← LedgerEvent.fromDict host data
      return event row

/-- `from_dict(json.loads(json.dumps(record.to_dict())))`. -/
def reload (host : Host) (style : Json.Style) (record : Record) :
    Program Supply PyException Record :=
  match Json.loads (Json.dumps style (.dict record.toDict)) with
  | some (.dict data) => record.reader host data
  | some _ => Program.raise .typeError
  | none => Program.raise .libraryValueError

/-- The checks of the record's store, or of a ledger whose last event has this
hash. -/
def accept (host : Host) (session : Session) (previous : Option String) :
    Record → Except PyException Unit
  | workUnit row => row.accept host session
  | plan row => row.accept host session
  | manifest row => row.accept host session
  | event row => acceptEvent host session previous row

/-- Python's `==` of two records. -/
def pyEq : Record → Record → Bool
  | workUnit row, workUnit other => row.pyEq other
  | plan row, plan other => row.pyEq other
  | manifest row, manifest other => row.pyEq other
  | event row, event other => row.pyEq other
  | _, _ => false

/-- No field of the record is one that its reader replaces. -/
def survives : Record → Bool
  | workUnit row => row.survives
  | plan row => row.survives
  | manifest row => row.survives
  | event row => row.createdAt != ""

/-- Reloading the record yields an equal one. -/
def RoundTrips (host : Host) (style : Json.Style) (record : Record) : Prop :=
  ∀ supply, Returns (record.reload host style) supply fun found _ =>
    found.pyEq record = true

variable {host : Host} {session : Session} {previous : Option String}
variable {record : Record}

theorem reload_eq (plain : IsPlain (.dict record.toDict)) (style : Json.Style) :
    record.reload host style = record.reader host (written record.toDict) := by
  unfold reload
  rw [Json.loads_dumps style _ plain.1]
  rfl

theorem ensures_reader (reliable : host.Reliable)
    (plain : IsPlain (.dict record.toDict))
    (accepted : record.accept host session previous = .ok ())
    {data : List (String × Value)} (reread : written record.toDict = data)
    (supply : Supply) :
    Ensures (record.reader host data) supply
      (fun found _ => found.pyEq record = record.survives)
      (fun _ _ => record.survives = false) := by
  have rereads : Rereads record.toDict data := reread ▸ rereads_written plain
  cases record with
  | workUnit row =>
      apply ensures_bind.mpr
      exact WorkUnit.ensures_fromDict reliable rereads
        (WorkUnit.admitted_of_accept accepted) supply
  | plan row =>
      apply ensures_bind.mpr
      exact Plan.ensures_fromDict rereads (Plan.planId_of_accept accepted) supply
  | manifest row =>
      apply ensures_bind.mpr
      exact Manifest.ensures_fromDict reliable rereads
        (Manifest.admitted_of_accept accepted) supply
  | event row =>
      apply ensures_bind.mpr
      apply (ensures_fromDict_event reliable plain (eventId_of_accept accepted)
        reread supply).mono
      · exact fun _ _ kept => kept
      · exact fun _ _ impossible => impossible.elim

theorem survives_of_roundTrips (reliable : host.Reliable)
    (plain : IsPlain (.dict record.toDict))
    (accepted : record.accept host session previous = .ok ())
    {style : Json.Style} (returns : record.RoundTrips host style) :
    record.survives = true := by
  unfold RoundTrips at returns
  rw [reload_eq plain] at returns
  generalize reread : written record.toDict = data at returns
  obtain ⟨found, later, run, kept⟩ := returns {}
  rw [← (ensures_reader reliable plain accepted reread {}).of_ok run]
  exact kept

/-- A plain record that its store accepts is reloaded as an equal one exactly if
it has none of the values that its reader replaces. -/
theorem roundTrips_iff (reliable : host.Reliable)
    (plain : IsPlain (.dict record.toDict))
    (accepted : record.accept host session previous = .ok ())
    (style : Json.Style) :
    record.RoundTrips host style ↔ record.survives = true := by
  refine ⟨survives_of_roundTrips reliable plain accepted, fun survives => ?_⟩
  unfold RoundTrips
  rw [reload_eq plain]
  generalize reread : written record.toDict = data
  intro supply
  have exits := ensures_reader reliable plain accepted reread supply
  rw [survives] at exits
  apply Ensures.returns
  apply exits.mono
  · exact fun _ _ kept => kept
  · intro _ _ impossible
    cases impossible

end Record

/-- A manifest of this namespace, and else with default fields. -/
def manifestIn (nameSpace : String) : Record :=
  .manifest {
    workUnitId := .str "wu_1"
    tenant := .str "acme"
    kind := .file
    contract := .exactBytes
    logicalRef := .str "report"
    nameSpace := .str nameSpace
    manifestId := .str "mf_1"
    createdAt := .str "2024-01-01T00:00:00+00:00" }

/-- A work unit of this trace. -/
def workUnitOf (traceId : Value) : Record :=
  .workUnit {
    kind := .file
    tenant := .str "acme"
    logicalRef := .str "report"
    payload := .list [.int 1, .none]
    traceId
    id := .str "wu_1"
    createdAt := .str "2024-01-01T00:00:00+00:00" }

theorem roundTrips_edge :
    (manifestIn "edge").RoundTrips Host.counting .spaced ↔
      (manifestIn "edge").survives = true :=
  Record.roundTrips_iff Host.counting_reliable ⟨rfl, rfl⟩
    (rfl : (manifestIn "edge").accept Host.counting {} none = .ok ()) .spaced

/-- An empty namespace is reloaded as `default`, and a missing trace as a new
one. -/
theorem emptyFields_replaced :
    IsPlain (.dict (manifestIn "").toDict) ∧
      (manifestIn "").accept Host.counting {} none = .ok () ∧
      ¬ (manifestIn "").RoundTrips Host.counting .spaced ∧
      IsPlain (.dict (workUnitOf .none).toDict) ∧
      (workUnitOf .none).accept Host.counting {} none = .ok () ∧
      ¬ (workUnitOf .none).RoundTrips Host.counting .spaced := by
  have manifestPlain : IsPlain (.dict (manifestIn "").toDict) := ⟨rfl, rfl⟩
  have manifestTaken :
      (manifestIn "").accept Host.counting {} none = .ok () := rfl
  have workUnitPlain : IsPlain (.dict (workUnitOf .none).toDict) := ⟨rfl, rfl⟩
  have workUnitTaken :
      (workUnitOf .none).accept Host.counting {} none = .ok () := rfl
  refine ⟨manifestPlain, manifestTaken, fun returns => ?_, workUnitPlain,
    workUnitTaken, fun returns => ?_⟩
  · have survives := Record.survives_of_roundTrips Host.counting_reliable
      manifestPlain manifestTaken returns
    cases survives
  · have survives := Record.survives_of_roundTrips Host.counting_reliable
      workUnitPlain workUnitTaken returns
    cases survives

end JsonRecords

end Urp
