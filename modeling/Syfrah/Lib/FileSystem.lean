import Mathlib.Tactic

/-!
# Files with advisory locks

A directory maps names to files. Renaming and unlinking change the directory only: who has opened a
file keeps it. A lock belongs to a file and is held by the open file description that took it, until
that description is closed. So holding the lock of a file and holding the lock of the file that a name
stands for are two things: `Holds` is the second.
-/

namespace Syfrah

/-- The names of a directory and the files that were ever created in it. -/
structure FileSystem (Name Desc : Type) where
  entry : Name → Option ℕ
  content : ℕ → List Char
  lock : ℕ → Option Desc
  next : ℕ

namespace FileSystem

variable {Name Desc : Type} (fs : FileSystem Name Desc)

/-- Open the file under a name, and create it if there is none. -/
def openCreate [DecidableEq Name] (name : Name) : ℕ × FileSystem Name Desc :=
  match fs.entry name with
  | some file => (file, fs)
  | none => (fs.next, { fs with
      entry := Function.update fs.entry name (some fs.next)
      content := Function.update fs.content fs.next []
      next := fs.next + 1 })

def truncate (file : ℕ) : FileSystem Name Desc :=
  { fs with content := Function.update fs.content file [] }

def write (file : ℕ) (text : List Char) : FileSystem Name Desc :=
  { fs with content := Function.update fs.content file (text ++ (fs.content file).drop text.length) }

/-- Take the lock of a file unless another description holds it. -/
def tryLock [DecidableEq Desc] (file : ℕ) (d : Desc) : Option (FileSystem Name Desc) :=
  if fs.lock file = none ∨ fs.lock file = some d then
    some { fs with lock := Function.update fs.lock file (some d) }
  else none

/-- Close some descriptions: their locks are released. -/
def close (closed : Desc → Bool) : FileSystem Name Desc :=
  { fs with lock := fun file => (fs.lock file).filter fun d => !closed d }

def rename [DecidableEq Name] (source target : Name) : Option (FileSystem Name Desc) :=
  (fs.entry source).map fun file =>
    { fs with entry := Function.update (Function.update fs.entry source none) target (some file) }

def unlink [DecidableEq Name] (name : Name) : FileSystem Name Desc :=
  { fs with entry := Function.update fs.entry name none }

/-- The description holds the lock of the file that the name stands for now. -/
def Holds (d : Desc) (name : Name) : Prop :=
  ∃ file, fs.entry name = some file ∧ fs.lock file = some d

variable {fs} {d d' : Desc} {name : Name}

/-- **At most one description holds the lock** of the file that a name stands for. -/
theorem Holds.unique (h : fs.Holds d name) (h' : fs.Holds d' name) : d = d' := by
  obtain ⟨file, hfile, hlock⟩ := h
  obtain ⟨file', hfile', hlock'⟩ := h'
  have hsame : file = file' := Option.some.inj (hfile.symm.trans hfile')
  subst hsame
  exact Option.some.inj (hlock.symm.trans hlock')

theorem Holds.close (h : fs.Holds d name) {closed : Desc → Bool} (hd : closed d = false) :
    (fs.close closed).Holds d name := by
  obtain ⟨file, hfile, hlock⟩ := h
  exact ⟨file, hfile, by simp [FileSystem.close, hlock, hd]⟩

section Names

variable [DecidableEq Name]

theorem Holds.openCreate (h : fs.Holds d name) (other : Name) :
    (fs.openCreate other).2.Holds d name := by
  unfold FileSystem.openCreate
  split
  · exact h
  · rename_i hnone
    obtain ⟨file, hfile, hlock⟩ := h
    have hne : name ≠ other := by
      rintro rfl
      rw [hfile] at hnone
      cases hnone
    exact ⟨file, by simpa [Function.update_of_ne hne] using hfile, hlock⟩

end Names

section Locks

variable [DecidableEq Desc] {file : ℕ} {fs' : FileSystem Name Desc}

theorem tryLock_eq_some : fs.tryLock file d = some fs' ↔
    (fs.lock file = none ∨ fs.lock file = some d) ∧
      { fs with lock := Function.update fs.lock file (some d) } = fs' := by
  rw [tryLock, Option.ite_none_right_eq_some, Option.some.injEq]

theorem holds_of_tryLock (h : fs.tryLock file d = some fs') (hfile : fs.entry name = some file) :
    fs'.Holds d name := by
  obtain ⟨-, rfl⟩ := tryLock_eq_some.mp h
  exact ⟨file, hfile, by simp⟩

theorem Holds.tryLock (h : fs.Holds d' name) (hlock : fs.tryLock file d = some fs') :
    fs'.Holds d' name := by
  obtain ⟨file', hfile', hlock'⟩ := h
  obtain ⟨hfree, rfl⟩ := tryLock_eq_some.mp hlock
  refine ⟨file', hfile', ?_⟩
  by_cases hsame : file' = file
  · subst hsame
    rcases hfree with hnone | hown
    · rw [hlock'] at hnone
      cases hnone
    · rw [hlock'] at hown
      simpa using hown.symm
  · simpa [Function.update_of_ne hsame] using hlock'

end Locks

end FileSystem

end Syfrah
