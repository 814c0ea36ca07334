import LuxSwirl.Py.Utf8
import LuxSwirl.Server.BaseSchema

/-!
# A check's target and its column

`check_schema.py` counts the characters of a target, `encrypted_types.py` encrypts
the bytes of its UTF-8, and the column of `check_model.py` counts the characters of the
token. `target_fits_iff` is where the three meet: 687 bytes.

The cipher is a library's. Of a token the model has its length alone, which is that
of the bytes with a version, a timestamp, an initialisation vector and an HMAC, the
ciphertext padded to whole blocks of 16, in base64.
-/

namespace LuxSwirl.Server
open LuxSwirl.Py

/-! ## The schemas -/

/-- `CheckBase.target` -/
def createTarget (given : Text) : Option Text := storableTextOf 1 512 given

/-- `CheckUpdate.target`, whose length is not bounded. -/
def updateTarget (given : Text) : Option Text :=
  let target := trim given
  if storableText target then some target else none

/-! ## The column -/

/-- The length of the token of so many bytes. -/
def tokenLength (bytes : Nat) : Nat := 4 * ((57 + 16 * (bytes / 16 + 1) + 2) / 3)

structure Fernet where
  encrypt : List UInt8 → Text
  length_encrypt : ∀ bytes, (encrypt bytes).length = tokenLength bytes.length

/-- `DatabaseException`, by its message. -/
structure DatabaseException where
  message : String

/-- `EncryptedString.process_bind_param` -/
def processBindParam (fernet : Fernet) : Option Text → Except DatabaseException (Option Text)
  | none => .ok none
  | some value =>
    match encode value with
    | none => .error ⟨"Could not encrypt a sensitive field; the value was not saved"⟩
    | some bytes => .ok (some (fernet.encrypt bytes))

/-- The length of `Check.target`'s column. -/
def targetColumnLength : Nat := 1000

/-- What is stored for the target, when the column takes it. -/
def FitsColumn (fernet : Fernet) (target : Text) : Prop :=
  ∃ stored, processBindParam fernet (some target) = .ok (some stored) ∧ stored.length ≤ targetColumnLength

/-! ## The bound -/

/-- What either schema keeps is storable. -/
theorem storable_of_accepted {given target : Text}
    (accepted : createTarget given = some target ∨ updateTarget given = some target) : storableText target = true := by
  rcases accepted with created | updated
  · exact (of_storableTextOf created).2
  · rw [updateTarget] at updated
    split_ifs at updated with storable
    cases updated
    exact storable

/-- A storable text is encrypted, in as many bytes as its UTF-8 takes. -/
theorem processBindParam_of_storable (fernet : Fernet) {target : Text} (storable : storableText target = true) :
    ∃ stored, processBindParam fernet (some target) = .ok (some stored) ∧
      stored.length = tokenLength (utf8Size target) := by
  rw [storableText, Bool.and_eq_true] at storable
  obtain ⟨bytes, encoded, size⟩ := encode_of_utf8Encodable storable.2
  refine ⟨fernet.encrypt bytes, ?_, ?_⟩
  · simp only [processBindParam, encoded]
  · rw [fernet.length_encrypt, size]

theorem tokenLength_le_iff {bytes : Nat} : tokenLength bytes ≤ targetColumnLength ↔ bytes ≤ 687 := by
  rw [tokenLength, targetColumnLength]
  omega

/-- **A target fits its column when it takes 687 bytes at most.** Neither schema counts
bytes: 512 characters take up to 2048, and an update takes any number. -/
theorem target_fits_iff (fernet : Fernet) {given target : Text}
    (accepted : createTarget given = some target ∨ updateTarget given = some target) :
    FitsColumn fernet target ↔ utf8Size target ≤ 687 := by
  obtain ⟨stored, bound, length⟩ := processBindParam_of_storable fernet (storable_of_accepted accepted)
  rw [← tokenLength_le_iff, ← length]
  constructor
  · rintro ⟨other, isStored, fits⟩
    rw [bound] at isStored
    cases isStored
    exact fits
  · intro fits
    exact ⟨stored, bound, fits⟩

/-- A cipher whose tokens are all the same letter. -/
def plainFernet : Fernet where
  encrypt bytes := List.replicate (tokenLength bytes.length) (.scalar 'A')
  length_encrypt _ := List.length_replicate

theorem example_target_fits : FitsColumn plainFernet (text "example.com") ↔ utf8Size (text "example.com") ≤ 687 :=
  @target_fits_iff plainFernet (text " example.com") (text "example.com") (.inl (by decide))

/-- A text of one letter is kept as it is by a schema that takes its length. -/
theorem createTarget_replicate {n : Nat} {c : Char} (some_ : 1 ≤ n) (short : n ≤ 512)
    (letter : isWhiteSpace (.scalar c) = false) (isNot : CodePoint.scalar c ≠ nul) :
    createTarget (List.replicate n (.scalar c)) = some (List.replicate n (.scalar c)) := by
  have trimmed : trim (List.replicate n (.scalar c)) = List.replicate n (.scalar c) := by
    apply stripped_of_none
    intro d mem
    rw [List.eq_of_mem_replicate mem]
    exact letter
  have storable : storableText (List.replicate n (.scalar c)) = true := by
    rw [storableText_iff]
    intro d mem
    rw [List.eq_of_mem_replicate mem]
    exact ⟨isNot, rfl⟩
  rw [createTarget, storableTextOf, trimmed]
  simp only [List.length_replicate]
  rw [if_pos ⟨some_, short, storable⟩]

/-- 230 euro signs are a target of 690 bytes. -/
theorem euro_target_overflows :
    createTarget (List.replicate 230 (.scalar '€')) = some (List.replicate 230 (.scalar '€')) ∧
      ¬ FitsColumn plainFernet (List.replicate 230 (.scalar '€')) := by
  have kept : createTarget (List.replicate 230 (.scalar '€')) = some (List.replicate 230 (.scalar '€')) :=
    createTarget_replicate (by omega) (by omega) (by decide) (by decide)
  obtain ⟨stored, bound, length⟩ := processBindParam_of_storable plainFernet (storable_of_accepted (.inl kept))
  refine ⟨kept, ?_⟩
  rintro ⟨other, isStored, fits⟩
  rw [bound] at isStored
  cases isStored
  rw [length, tokenLength_le_iff, utf8Size_replicate] at fits
  exact absurd fits (by decide)

end LuxSwirl.Server
