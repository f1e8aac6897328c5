import Syfrah.Lib.FileSystem
import Syfrah.Lib.Run
import Syfrah.Lib.Text

/-!
# The PID file of the daemon

`write_pid`, `daemon_running` and `remove_pid`, one file system call at a time, for any number of
processes on one state directory.
-/

namespace Syfrah

namespace PidFile

/-- The two names that are used in the state directory. -/
inductive FileName
  | pid
  | tmp
deriving DecidableEq

/-- The files that a call of `write_pid` opens: the first one, and the second after the rename. -/
structure Desc where
  process : ℕ
  call : ℕ
  second : Bool
deriving DecidableEq

abbrev Files := FileSystem FileName Desc

/-- Where a process is: outside of the functions, or between two of their file system calls. -/
inductive Pc
  | idle
  /-- `write_pid`: before the first `flock`. -/
  | opened (file : ℕ)
  | locked (file : ℕ)
  | tmpOpened (tmp : ℕ)
  | tmpWritten
  | renamed
  /-- `write_pid`: before the second `flock`. -/
  | reopened (file : ℕ)
  | relocked (file : ℕ)
  | emptied (file : ℕ)
  | pidWritten (file : ℕ)
  /-- `daemon_running`: the file is open. -/
  | reading (file : ℕ)
  /-- `daemon_running`: before `kill`. -/
  | killing (pid : ℕ)
  /-- `daemon_running`: before the state of the process is read. -/
  | checkingZombie (pid : ℕ)
  /-- `remove_pid`, called by `daemon_running`. -/
  | removing
deriving DecidableEq

/-- A process: where it is, the number of its current call of `write_pid`, and the files that its calls
returned and that it still holds. -/
structure Process where
  pc : Pc
  call : ℕ
  held : List ℕ
deriving DecidableEq

structure State where
  files : Files
  process : ℕ → Process

/-- Any files without locks, and processes that have not called anything. -/
def State.start (entry : FileName → Option ℕ) (content : ℕ → List Char) (next : ℕ) : State where
  files := ⟨entry, content, fun _ => none, next⟩
  process _ := ⟨.idle, 0, []⟩

inductive Act
  | writePid (p : ℕ)
  | daemonRunning (p : ℕ)
  | removePid (p : ℕ)
  /-- The next file system call of the function that the process is in. `answer` is what `kill` or the
  look at the state of a process says. -/
  | advance (p : ℕ) (answer : Bool)
  /-- The process closes the file that one of its calls returned. -/
  | drop (p call : ℕ)
  /-- The process ends and all its files are closed. -/
  | exit (p : ℕ)
deriving DecidableEq

namespace State

/-- The process goes on, with the files as they are. -/
def goto (s : State) (p : ℕ) (files : Files) (pc : Pc) : State :=
  ⟨files, Function.update s.process p { s.process p with pc := pc }⟩

/-- `write_pid` returns an error: what it opened is closed. -/
def fail (s : State) (p : ℕ) : State :=
  s.goto p (s.files.close fun d => d.process == p && d.call == (s.process p).call) .idle

/-- `write_pid` returns the second file; the first one is closed. -/
def succeed (s : State) (p : ℕ) : State :=
  ⟨s.files.close fun d => d == ⟨p, (s.process p).call, false⟩,
    Function.update s.process p
      ⟨.idle, (s.process p).call + 1, (s.process p).call :: (s.process p).held⟩⟩

def advance (s : State) (p : ℕ) (answer : Bool) : State :=
  match (s.process p).pc with
  | .idle => s
  | .opened file =>
    match s.files.tryLock file ⟨p, (s.process p).call, false⟩ with
    | none => s.fail p
    | some files => s.goto p files (.locked file)
  | .locked _ =>
    -- fs::write opens the temporary file, creating or emptying it, and then writes
    let (tmp, files) := s.files.openCreate .tmp
    s.goto p (files.truncate tmp) (.tmpOpened tmp)
  | .tmpOpened tmp => s.goto p (s.files.write tmp (toString p).toList) .tmpWritten
  | .tmpWritten =>
    match s.files.rename .tmp .pid with
    | none => s.fail p
    | some files => s.goto p files .renamed
  | .renamed =>
    match s.files.entry .pid with
    | none => s.fail p
    | some file => s.goto p s.files (.reopened file)
  | .reopened file =>
    match s.files.tryLock file ⟨p, (s.process p).call, true⟩ with
    | none => s.fail p
    | some files => s.goto p files (.relocked file)
  | .relocked file => s.goto p (s.files.truncate file) (.emptied file)
  | .emptied file => s.goto p (s.files.write file (toString p).toList) (.pidWritten file)
  | .pidWritten _ => s.succeed p
  | .reading file =>
    match Text.parseUnsigned (2 ^ 32) (Text.trim (String.ofList (s.files.content file))) with
    | none => s.goto p s.files .idle
    | some pid => s.goto p s.files (.killing pid)
  | .killing pid =>
    if answer then s.goto p s.files (.checkingZombie pid) else s.goto p s.files .removing
  | .checkingZombie _ => if answer then s.goto p s.files .removing else s.goto p s.files .idle
  | .removing => s.goto p (s.files.unlink .pid) .idle

/-- One step of the system. A call is made by a process that is outside of the functions. -/
def step : Act → State → Unit × State
  | .writePid p, s => ((), if (s.process p).pc = .idle then
      let (file, files) := s.files.openCreate .pid
      s.goto p files (.opened file) else s)
  | .daemonRunning p, s => ((), if (s.process p).pc = .idle then
      match s.files.entry .pid with
      | none => s
      | some file => s.goto p s.files (.reading file) else s)
  | .removePid p, s => ((), if (s.process p).pc = .idle then
      s.goto p (s.files.unlink .pid) .idle else s)
  | .advance p answer, s => ((), s.advance p answer)
  | .drop p call, s => ((), if call ∈ (s.process p).held then
      ⟨s.files.close fun d => d == ⟨p, call, true⟩, Function.update s.process p
        { s.process p with held := (s.process p).held.filter (· ≠ call) }⟩ else s)
  | .exit p, s => ((), ⟨s.files.close fun d => d.process == p,
      Function.update s.process p ⟨.idle, (s.process p).call, []⟩⟩)

end State

end PidFile

end Syfrah
