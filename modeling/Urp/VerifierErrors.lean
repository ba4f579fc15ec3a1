import Urp.GatewaySteps

/-!
# Steps that never fail as a verifier

Recording an event, putting a manifest and storing an answer raise errors of
their own, none of which is `verifier_failed`.
-/

namespace Urp

open Python Program

/-- The error is not `verifier_failed`. -/
def PyException.IsOther (error : PyException) : Prop :=
  ¬ error.hasCode "verifier_failed"

/-- No `URPError` but a tenant mismatch. -/
def PyException.IsStoreError (error : PyException) : Prop :=
  ∀ urp, error = .urp urp → urp.code = "tenant_mismatch"

/-- Only `URPError` has a code. -/
theorem PyException.isStoreError_of_python {error : PyException}
    (python : ∀ urp, error ≠ .urp urp) : error.IsStoreError :=
  fun urp same => absurd same (python urp)

theorem PyException.IsStoreError.not_hasCode {error : PyException}
    (store : error.IsStoreError) {code : String}
    (other : code ≠ "tenant_mismatch") : ¬ error.hasCode code := by
  intro coded
  cases error with
  | urp error => exact other (coded.symm.trans (store error rfl))
  | _ => exact coded

theorem PyException.IsStoreError.isOther {error : PyException}
    (store : error.IsStoreError) : error.IsOther :=
  store.not_hasCode (by decide)

theorem requireTenant_isStoreError {session : Session} {tenant : String}
    {error : PyException}
    (failed : requireTenant session tenant = .error error) :
    error.IsStoreError := by
  unfold requireTenant at failed
  split at failed
  · cases failed
  · cases failed
  · split at failed
    · cases failed
    · cases failed
      intro urp same
      cases same
      rfl

theorem requireTenant_isOther {session : Session} {tenant : String}
    {error : PyException}
    (failed : requireTenant session tenant = .error error) : error.IsOther :=
  (requireTenant_isStoreError failed).isOther

section Ledger

variable (host : Host) {allowed : PyException → Prop}

theorem raises_newId (kind : String) : Raises allowed (host.newId kind) :=
  raises_bind raises_get fun _ =>
    raises_bind (raises_modify _) fun _ => raises_ret _

theorem raises_now : Raises allowed host.now :=
  raises_bind raises_get fun _ =>
    raises_bind (raises_modify _) fun _ => raises_ret _

theorem raises_utcNow : Raises allowed host.utcNow :=
  raises_bind (raises_now host) fun _ => raises_ret _

theorem requiredText_isStoreError {data : List (String × Value)} {key : String}
    {error : PyException} (failed : requiredText data key = .error error) :
    error.IsStoreError := by
  unfold requiredText at failed
  split at failed
  · cases failed
  · cases failed
    exact PyException.isStoreError_of_python fun _ => nofun
  · cases failed
    exact PyException.isStoreError_of_python fun _ => nofun

theorem textField_isStoreError {data : List (String × Value)} {key : String}
    {error : PyException} (failed : textField data key = .error error) :
    error.IsStoreError := by
  unfold textField at failed
  split at failed
  · cases failed
  · cases failed
  · cases failed
    exact PyException.isStoreError_of_python fun _ => nofun

theorem objectField_isStoreError {data : List (String × Value)} {key : String}
    {error : PyException} (failed : objectField data key = .error error) :
    error.IsStoreError := by
  unfold objectField at failed
  split at failed
  · cases failed
  · split at failed
    · cases failed
      exact PyException.isStoreError_of_python fun _ => nofun
    · cases failed

theorem raises_orDraw {text : Option String}
    {draw : Program Supply PyException String}
    (inner : Raises PyException.IsStoreError draw) :
    Raises PyException.IsStoreError (orDraw text draw) :=
  raises_ite inner (raises_ret _)

theorem raises_fromDict (data : List (String × Value)) :
    Raises PyException.IsStoreError (LedgerEvent.fromDict host data) := by
  unfold LedgerEvent.fromDict
  repeat
    first
    | refine raises_bind (raises_lift fun _ => requiredText_isStoreError) fun _ => ?_
    | refine raises_bind (raises_lift fun _ => textField_isStoreError) fun _ => ?_
    | refine raises_bind (raises_lift fun _ => objectField_isStoreError) fun _ => ?_
    | refine raises_bind (raises_orDraw (raises_newId host _)) fun _ => ?_
    | refine raises_bind (raises_orDraw (raises_utcNow host)) fun _ => ?_
  exact raises_ret _

theorem raises_parseEvent (text : Option (List Char)) :
    Raises PyException.IsStoreError (parseEvent host text) := by
  unfold parseEvent
  split
  · exact raises_fromDict host _
  · exact raises_raise (PyException.isStoreError_of_python fun _ => nofun)
  · exact raises_raise (PyException.isStoreError_of_python fun _ => nofun)

theorem validateNamedSchema_isStoreError {schema : String} {valid : Bool}
    {error : PyException}
    (failed : validateNamedSchema schema valid = .error error) :
    error.IsStoreError := by
  unfold validateNamedSchema at failed
  split at failed
  · cases failed
  · cases failed
    exact PyException.isStoreError_of_python fun _ => nofun

theorem raises_journal (session : Session) (event : LedgerEvent) :
    Raises PyException.IsStoreError
      (JSONLLedger.record host session event) := by
  refine raises_bind (raises_focus ?_) fun stamped => ?_
  · refine raises_bind (raises_newId host _) fun _ => ?_
    exact raises_bind (raises_utcNow host) fun _ => raises_ret _
  · refine raises_bind (raises_lift fun _ => requireTenant_isStoreError) fun _ => ?_
    refine raises_bind ?_ fun previous => ?_
    · refine raises_bind raises_get fun state => ?_
      dsimp only
      split
      · exact raises_ret _
      · refine raises_bind (raises_focus ?_) fun _ => raises_ret _
        exact raises_parseEvent host _
    · refine raises_bind (raises_lift fun _ => validateNamedSchema_isStoreError)
        fun _ => ?_
      apply raises_ite
      · exact raises_raise (PyException.isStoreError_of_python fun _ => nofun)
      · exact raises_bind (raises_modify _) fun _ => raises_ret _

theorem raises_record (session : Session) (event : LedgerEvent) :
    Raises PyException.IsOther (record host session event) := by
  refine raises_bind (raises_focus fun state => ?_) fun _ => raises_ret _
  exact (raises_journal host session event state).mono (fun _ _ ok => ok)
    fun _ _ store => store.isOther

end Ledger

/-! ## Stores and manifests -/

section Stores

variable (host : Host)

theorem validateNamedSchema_isOther {schema : String} {valid : Bool}
    {error : PyException}
    (failed : validateNamedSchema schema valid = .error error) :
    error.IsOther :=
  (validateNamedSchema_isStoreError failed).isOther

theorem validateIdentifier_isOther {text label start : String}
    {error : PyException}
    (failed : validateIdentifier text label start = .error error) :
    error.IsOther := by
  unfold validateIdentifier at failed
  split at failed
  · cases failed
    exact id
  · split at failed
    · cases failed
      exact id
    · cases failed

theorem validateManifest_isOther {manifest : Manifest} {error : PyException}
    (failed : validateManifest host manifest = .error error) :
    error.IsOther := by
  unfold validateManifest at failed
  cases shape : validateNamedSchema "manifest"
      (matchesIdPattern "mf_" manifest.manifestId &&
        passesDateTime host manifest.createdAt) with
  | error first =>
      rw [shape] at failed
      cases failed
      exact validateNamedSchema_isOther shape
  | ok _ =>
      rw [shape] at failed
      change manifest.physical.validate = .error error at failed
      cases physical : manifest.physical with
      | exact | observed =>
          rw [physical] at failed
          cases failed
      | compute | embedding =>
          rw [physical] at failed
          exact validateNamedSchema_isOther failed

theorem raises_put (session : Session) (manifest : Manifest) :
    Raises PyException.IsOther
      (FileManifestStore.put host session manifest) := by
  refine raises_bind (raises_lift fun _ => requireTenant_isOther) fun _ => ?_
  refine raises_bind (raises_lift fun _ => validateManifest_isOther host)
    fun _ => ?_
  refine raises_bind (raises_lift fun _ => validateIdentifier_isOther)
    fun _ => ?_
  exact raises_modify _

theorem raises_putManifest (session : Session) (admission : Admission)
    (manifest : Manifest) :
    Raises PyException.IsOther
      (putManifest host session admission manifest) := by
  refine raises_bind (raises_focus (raises_put host session manifest))
    fun _ => ?_
  exact raises_record host session _

theorem raises_cacheableUntil (mode : Mode) (ttl : Option ℚ) :
    Raises PyException.IsOther (cacheableUntil host mode ttl) := by
  unfold cacheableUntil
  split
  · apply raises_ite
    · exact raises_bind (raises_now host) fun _ => raises_ret _
    · exact raises_ret _
  · exact raises_ret _

theorem raises_writeChatManifest (chat : Chat) (served : Served) :
    Raises PyException.IsOther (writeChatManifest host chat served) := by
  refine raises_bind (raises_focus (raises_cacheableUntil host _ _))
    fun cacheable => ?_
  refine raises_bind (raises_lift fun _ => validateNamedSchema_isOther)
    fun _ => ?_
  refine raises_bind (raises_focus (raises_newId host _)) fun manifestId => ?_
  refine raises_bind (raises_focus (raises_utcNow host)) fun createdAt => ?_
  refine raises_bind (raises_putManifest host _ _ _) fun _ => ?_
  exact raises_ret _

theorem raises_checkExpired (expiresAt : Option ℚ) :
    Raises PyException.IsOther (checkExpired host expiresAt) := by
  unfold checkExpired
  split
  · exact raises_ret _
  · exact raises_bind (raises_now host) fun _ => raises_ret _

theorem raises_storeExact (chat : Chat) (response : Value) :
    Raises PyException.IsOther (storeExact host chat response) := by
  unfold storeExact
  split
  · apply raises_ite
    · refine raises_focus (raises_bind (raises_focus (raises_now host))
        fun now => ?_)
      apply raises_ite
      · exact raises_raise id
      · apply raises_ite
        · exact raises_raise id
        · refine raises_bind (raises_focus (raises_checkExpired host _))
            fun expired => ?_
          apply raises_ite
          · exact raises_raise id
          · refine raises_bind raises_get fun state => ?_
            split
            · exact raises_modify _
            · refine raises_bind (raises_focus (raises_now host)) fun _ => ?_
              exact raises_modify _
    · exact raises_ret _
  · exact raises_ret _

theorem raises_storeSemantic (chat : Chat) (response : Value) :
    Raises PyException.IsOther (storeSemantic host chat response) := by
  unfold storeSemantic
  split
  · apply raises_ite
    · refine raises_bind (raises_focus ?_) fun _ => raises_ret _
      apply raises_ite
      · exact raises_raise id
      · refine raises_bind (raises_focus (raises_now host)) fun now => ?_
        refine raises_bind ?_ fun _ => raises_ret _
        apply raises_ite
        · exact raises_raise id
        · refine raises_bind (raises_focus (raises_checkExpired host _))
            fun expired => ?_
          apply raises_ite
          · exact raises_raise id
          · exact raises_modify _
    · exact raises_ret _
  · exact raises_ret _

theorem raises_recordFeedback (workUnit : WorkUnit) (route : ModelRoute)
    (passed : Bool) :
    Raises PyException.IsOther (recordFeedback host workUnit route passed) := by
  refine raises_bind (raises_focus (raises_focus (raises_utcNow host)))
    fun _ => ?_
  exact raises_modify _

theorem raises_recordChat (chat : Chat) (event : LedgerEvent) :
    Raises PyException.IsOther (recordChat host chat event) :=
  raises_focus (raises_record host _ event)

end Stores

end Urp
