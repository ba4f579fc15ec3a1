import Urp.Contracts
import Urp.Library.Program

/-!
# Exceptions

`URPError` is the program's own exception; the other constructors are the
Python exceptions that its code raises or lets through.  Messages are kept
where the program writes them.
-/

namespace Urp

open Python

structure URPError where
  code : String
  message : String
  workUnitId : Option String := none
  policyBundleId : Option String := none
  retryable : Bool := false
  details : Object := ∅

inductive PyException where
  | urp (error : URPError)
  | valueError (message : String)
  /-- A `ValueError` that a library function raises with a text of its own. -/
  | libraryValueError
  /-- A `ValueError` of `validate_named_schema`. -/
  | schemaValidation (schema : String)
  | keyError (key : String)
  | indexError
  | typeError
  | attributeError
  | overflowError
  | fileNotFound (path : String)
  /-- Another `OSError`. -/
  | osError (message : String)
  | runtimeError (message : String)
  /-- The decompressor rejects its input. -/
  | codecError
  /-- Whatever a chat provider raises. -/
  | provider (message : String)
  /-- An error of the PostgreSQL driver. -/
  | databaseError

namespace PyException

/-- `isinstance(exc, (KeyError, ValueError, OSError))`. -/
def isLookupFailure : PyException → Bool
  | valueError _ | libraryValueError | schemaValidation _ | keyError _
  | fileNotFound _ | osError _ => true
  | _ => false

/-- `isinstance(exc, (KeyError, ValueError, FileNotFoundError))`. -/
def isApprovalFailure : PyException → Bool
  | valueError _ | libraryValueError | schemaValidation _ | keyError _
  | fileNotFound _ => true
  | _ => false

/-- `str(exc)` of the exceptions that the program quotes. -/
def text : PyException → String
  | valueError message | runtimeError message | provider message
  | osError message => message
  | keyError key => "'" ++ key ++ "'"
  | fileNotFound path =>
      "[Errno 2] No such file or directory: '" ++ path ++ "'"
  | _ => ""

end PyException

def policyDenied (message : String) (workUnitId : Option String)
    (policyBundleId : Option String := none) : PyException :=
  .urp { code := "policy_denied", message, workUnitId, policyBundleId }

def tenantMismatch (expected actual : String) : PyException :=
  .urp {
    code := "tenant_mismatch"
    message :=
      "the authenticated principal cannot access the requested tenant"
    details := .ofList [("principal_tenant", .str expected),
      ("requested_tenant", .str actual)] }

def verifierFailed (message workUnitId : String) (details : Object := ∅) :
    PyException :=
  .urp {
    code := "verifier_failed", message, workUnitId := some workUnitId, details }

def rehydrationFailed (message workUnitId : String) (details : Object) :
    PyException :=
  .urp {
    code := "rehydration_failed", message, workUnitId := some workUnitId,
    details }

/-- The exception is a `URPError` with this code. -/
def PyException.hasCode (code : String) : PyException → Prop
  | .urp error => error.code = code
  | _ => False

end Urp
