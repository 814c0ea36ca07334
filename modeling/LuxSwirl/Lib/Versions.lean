import Mathlib.Order.Basic

/-!
# The versions of a row

A row is edited again and again, each edit on the version that the ones before it left
(`Versions`). What every edit keeps, all versions have (`Versions.keeps`). Where an edit
that changes the row moves its stamp on, the stamp tells the version
(`Versions.eq_of_stamp`): an edit that asks for the stamp it was drawn from is made on
the very version it was drawn from.
-/

namespace LuxSwirl.Lib

variable {E R T : Type*}

/-- Edits with the version each was made on, and the version they leave. -/
inductive Versions (makes : E → R → R → Prop) (start : R) : List (E × R) → R → Prop
  | start : Versions makes start [] start
  | edit {done : List (E × R)} {old new : R} {edit : E} (before : Versions makes start done old)
      (made : makes edit old new) : Versions makes start (done ++ [(edit, old)]) new

/-- The versions there have been. -/
def versionsOf (done : List (E × R)) (last : R) : List R := done.map Prod.snd ++ [last]

theorem last_mem_versionsOf (done : List (E × R)) (last : R) : last ∈ versionsOf done last := by
  simp [versionsOf]

theorem versionsOf_append (done : List (E × R)) (edit : E) (old new : R) :
    versionsOf (done ++ [(edit, old)]) new = versionsOf done old ++ [new] := by
  simp [versionsOf]

namespace Versions

variable {makes makes' : E → R → R → Prop} {start last : R} {done : List (E × R)}

theorem mono (versions : Versions makes start done last)
    (weaker : ∀ edit old new, makes edit old new → makes' edit old new) : Versions makes' start done last := by
  induction versions with
  | start => exact .start
  | edit before made ih => exact .edit ih (weaker _ _ _ made)

/-- **Invariants.** -/
theorem keeps {inv : R → Prop} (versions : Versions makes start done last)
    (kept : ∀ edit old new, makes edit old new → inv old → inv new) (holds : inv start) :
    ∀ version ∈ versionsOf done last, inv version := by
  induction versions with
  | start => simpa [versionsOf] using holds
  | edit before made ih =>
    rw [versionsOf_append]
    intro version mem
    rcases List.mem_append.mp mem with earlier | newest
    · exact ih version earlier
    · rw [List.mem_singleton.mp newest]
      exact kept _ _ _ made (ih _ (last_mem_versionsOf _ _))

/-- Each edit was made, on the version recorded with it. -/
theorem made (versions : Versions makes start done last) {edit : E} {old : R} (mem : (edit, old) ∈ done) :
    ∃ new, makes edit old new := by
  induction versions with
  | start => cases mem
  | edit before made ih =>
    rcases List.mem_append.mp mem with earlier | newest
    · exact ih earlier
    · cases List.mem_singleton.mp newest
      exact ⟨_, made⟩

section Stamps

variable [Preorder T] {stamp : R → T}

/-- The stamp of an older version is an older one, unless nothing has changed since. -/
theorem eq_or_stamp_lt (versions : Versions makes start done last)
    (moves : ∀ edit old new, makes edit old new → new = old ∨ stamp old < stamp new) :
    ∀ version ∈ versionsOf done last, version = last ∨ stamp version < stamp last := by
  induction versions with
  | start => simp [versionsOf]
  | @edit done old new edit before made ih =>
    rw [versionsOf_append]
    intro version mem
    rcases List.mem_append.mp mem with earlier | newest
    · rcases moves edit old new made with rfl | later
      · exact ih version earlier
      · rcases ih version earlier with rfl | older
        · exact Or.inr later
        · exact Or.inr (older.trans later)
    · exact Or.inl (List.mem_singleton.mp newest)

/-- **A stamp tells the version.** -/
theorem eq_of_stamp (versions : Versions makes start done last)
    (moves : ∀ edit old new, makes edit old new → new = old ∨ stamp old < stamp new) :
    ∀ one ∈ versionsOf done last, ∀ other ∈ versionsOf done last, stamp one = stamp other → one = other := by
  induction versions with
  | start =>
    intro one isOne other isOther _
    rw [versionsOf, List.map_nil, List.nil_append, List.mem_singleton] at isOne isOther
    exact isOne.trans isOther.symm
  | @edit done old new edit before made ih =>
    have apart : ∀ version ∈ versionsOf done old, stamp version = stamp new → version = new := by
      intro version mem same
      rcases before.eq_or_stamp_lt moves version mem with rfl | older
      · rcases moves edit version new made with unchanged | later
        · exact unchanged.symm
        · exact absurd same later.ne
      · rcases moves edit old new made with rfl | later
        · exact absurd same older.ne
        · exact absurd same (older.trans later).ne
    rw [versionsOf_append]
    intro one isOne other isOther same
    rcases List.mem_append.mp isOne with earlier | newest
    · rcases List.mem_append.mp isOther with earlierToo | newestToo
      · exact ih one earlier other earlierToo same
      · rw [List.mem_singleton.mp newestToo] at same ⊢
        exact apart one earlier same
    · rw [List.mem_singleton.mp newest] at same ⊢
      rcases List.mem_append.mp isOther with earlierToo | newestToo
      · exact (apart other earlierToo same.symm).symm
      · exact (List.mem_singleton.mp newestToo).symm

end Stamps

end Versions

end LuxSwirl.Lib
