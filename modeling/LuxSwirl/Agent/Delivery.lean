import LuxSwirl.Py.Json

/-!
# What an answer means for a batch

`dead_letter.py` sorts the answers to a report into four outcomes. A permanent
refusal needs the server's own word: a 400 or 422 whose body is its JSON error
envelope with a payload error code.

The membership test that reads the code hashes whatever the envelope holds
under `error`. Python hashes no list and no dict, so such an envelope raises a
`TypeError`; a body nested deeper than the decoder goes raises a
`RecursionError`. Neither is the `ValueError` the reader expects.
-/

namespace LuxSwirl.Agent
open LuxSwirl.Py LuxSwirl.Lib

/-- What a report POST's outcome means for the batch. -/
inductive Delivery where
  | sent
  | permanent
  | tooLarge
  | transient
  deriving DecidableEq

/-- The exceptions that reading an answer lets out. -/
inductive PyError where
  | typeError
  | recursionError
  deriving DecidableEq

/-- What a POST gets: a status and a body, or no answer at all. -/
inductive Answer where
  | noAnswer
  | response (status : Nat) (body : Text)

def permanentStatuses : List Nat := [400, 422]

def payloadErrorCodes : List Text := [text "VALIDATION_ERROR", text "BAD_REQUEST"]

def maxDetailChars : Nat := 2048

/-- `code in PAYLOAD_ERROR_CODES`, for what `envelope.get("error")` gave. -/
def inPayloadErrorCodes : Option Json → Except PyError Bool
  | some (.str code) => .ok (payloadErrorCodes.contains code)
  | some (.arr _) => .error .typeError
  | some (.obj _) => .error .typeError
  | _ => .ok false

/-- Whether `body` is the server's JSON error envelope blaming the payload. The
decoder reads arrays and objects nested `nesting` deep. -/
def isPayloadRefusal (nesting : Nat) (body : Text) : Except PyError Bool :=
  match jsonLoads nesting body with
  | .error .valueError => .ok false
  | .error .recursionError => .error .recursionError
  | .ok (.obj envelope) => inPayloadErrorCodes (Fields.get? (text "error") envelope)
  | .ok _ => .ok false

/-- Classify a response from the reports endpoint. -/
def classifyResponse (nesting : Nat) (status : Nat) (body : Text) : Except PyError Delivery :=
  if 200 ≤ status ∧ status < 300 then .ok .sent
  else if status = 413 then .ok .tooLarge
  else if status ∈ permanentStatuses then
    (isPayloadRefusal nesting body).map fun refused => if refused then .permanent else .transient
  else .ok .transient

/-- The server's error body as stored: scrubbed, then truncated. -/
def errorDetail (scrubText : Text → Text) (body : Text) : Text :=
  (scrubText body).take maxDetailChars

/-- What an answer says of the batch it was given for. -/
def Answer.verdict (nesting : Nat) : Answer → Except PyError Delivery
  | .noAnswer => .ok .transient
  | .response status body => classifyResponse nesting status body

/-- A value no set can be asked for: Python hashes no list and no dict. -/
def unhashable : Option Json → Bool
  | some (.arr _) => true
  | some (.obj _) => true
  | _ => false

/-- Reading the body raises: it nests too deep to decode, or is an object that
holds a list or an object under `error`. -/
def refusalRaises (nesting : Nat) (body : Text) : Bool :=
  match jsonLoads nesting body with
  | .error .valueError => false
  | .error .recursionError => true
  | .ok (.obj envelope) => unhashable (Fields.get? (text "error") envelope)
  | .ok _ => false

/-- The answers that raise. -/
def Answer.raises (nesting : Nat) : Answer → Bool
  | .noAnswer => false
  | .response status body => decide (status ∈ permanentStatuses) && refusalRaises nesting body

theorem inPayloadErrorCodes_isOk (code : Option Json) :
    (inPayloadErrorCodes code).isOk = !unhashable code := by
  cases code with
  | none => rfl
  | some value => cases value <;> rfl

theorem isPayloadRefusal_isOk (nesting : Nat) (body : Text) :
    (isPayloadRefusal nesting body).isOk = !refusalRaises nesting body := by
  unfold isPayloadRefusal refusalRaises
  cases jsonLoads nesting body with
  | error e => cases e <;> rfl
  | ok value =>
    cases value with
    | obj envelope => exact inPayloadErrorCodes_isOk _
    | _ => rfl

/-- An answer is classified exactly when it does not raise. -/
theorem Answer.verdict_isOk (nesting : Nat) (answer : Answer) :
    (answer.verdict nesting).isOk = !answer.raises nesting := by
  cases answer with
  | noAnswer => rfl
  | response status body =>
    simp only [verdict, raises, classifyResponse]
    by_cases success : 200 ≤ status ∧ status < 300
    · have unlisted : status ∉ permanentStatuses := by
        simp only [permanentStatuses, List.mem_cons, List.not_mem_nil, or_false]
        omega
      simp [success, unlisted, Except.isOk, Except.toBool]
    · by_cases large : status = 413
      · simp [large, permanentStatuses, Except.isOk, Except.toBool]
      · by_cases listed : status ∈ permanentStatuses
        · simp only [success, large, listed, if_true, if_false, decide_true, Bool.true_and,
            ← isPayloadRefusal_isOk]
          cases isPayloadRefusal nesting body <;> rfl
        · simp [success, large, listed, Except.isOk, Except.toBool]

/-- Only a response is sent, refused for good or refused for its size. -/
theorem Answer.response_of_verdict {nesting : Nat} {answer : Answer} {delivery : Delivery}
    (verdict : answer.verdict nesting = .ok delivery) (definite : delivery ≠ .transient) :
    ∃ status body, answer = .response status body := by
  cases answer with
  | noAnswer =>
    cases verdict
    exact absurd rfl definite
  | response status body => exact ⟨status, body, rfl⟩

end LuxSwirl.Agent
