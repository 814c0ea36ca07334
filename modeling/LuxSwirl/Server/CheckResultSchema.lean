import LuxSwirl.Server.BaseSchema
import LuxSwirl.Server.CheckResponses

/-!
# The schema of a reported result

`check_result_schema.py`. Each result of a report is validated on its own; one
that is refused is counted and skipped.
-/

namespace LuxSwirl.Server
open LuxSwirl.Py LuxSwirl.Lib

def checkErrorTypes : List String :=
  ["timeout_error", "connection_error", "database_error", "query_error", "authentication_error",
    "unknown_error"]

/-- The types of checks, and the one older agents report their own state under. -/
def resultTypes : List String :=
  ([.ping, .http, .tcp, .json, .dns, .mysql, .postgres, .synthetic].map CheckType.value) ++ ["internal"]

def requiredField (key : String) (read : Value → Option Value) : Schema.Field Key Value :=
  { key := fieldKey key, read }

/-- A field that may be null, and is when it is missing. -/
def optionalField (key : String) (read : Value → Option Value) : Schema.Field Key Value :=
  { key := fieldKey key, default := some .none, read := nullable read }

@[simp] theorem requiredField_key (key : String) (read : Value → Option Value) :
    (requiredField key read).key = fieldKey key := rfl

@[simp] theorem optionalField_key (key : String) (read : Value → Option Value) :
    (optionalField key read).key = fieldKey key := rfl

theorem requiredField_of (key : String) (read : Value → Option Value) (v : Value) :
    (requiredField key read).of (some v) = read v := rfl

theorem optionalField_of_none (key : String) (read : Value → Option Value) :
    (optionalField key read).of none = some .none := rfl

theorem optionalField_of_some (key : String) (read : Value → Option Value) (v : Value) :
    (optionalField key read).of (some v) = nullable read v := rfl

/-- An optional field refuses only a value it is given. -/
theorem optionalField_of_map {α : Type} (key : String) (read : Value → Option Value) (f : α → Value)
    (given : Option α) :
    ((optionalField key read).of (given.map f)).isSome = true ↔
      ∀ x ∈ given, (nullable read (f x)).isSome = true := by
  cases given <;> simp [optionalField, Schema.Field.of]

def checkResultCreate (pydantic : Pydantic) : List (Schema.Field Key Value) :=
  [requiredField "timestamp" (readDatetime pydantic),
    requiredField "success" (readBool pydantic),
    optionalField "latency_ms" (readNonNegativeFloat pydantic),
    optionalField "error" (readStorableText 4000),
    optionalField "result_id" (readStorableText 64),
    optionalField "check_id" readUuid,
    requiredField "display_name" (readStorableText 255),
    requiredField "check_type" (readOneOf resultTypes),
    requiredField "target" (readStorableText 512),
    optionalField "error_type" (readOneOf checkErrorTypes),
    optionalField "http_status_code" (readIntBetween pydantic 100 599),
    optionalField "http_response_time_ms" (readNonNegativeFloat pydantic),
    optionalField "metrics" readStorableJson,
    optionalField "response_data" (readStorableText 65535)]

/-- `CheckResultCreate.model_validate` of a decoded JSON value. -/
def validateResult (pydantic : Pydantic) : Value → Option (List (Key × Value))
  | .dict fields => Schema.validate (checkResultCreate pydantic) fields
  | _ => none

end LuxSwirl.Server
