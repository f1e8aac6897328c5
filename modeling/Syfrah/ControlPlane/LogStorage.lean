import Syfrah.ControlPlane.StateMachine

/-!
# The store of the Raft log

The log is kept in memory and in a database, in which each write is a transaction of its own. A call
changes the memory and makes some transactions; when the process stops, those made so far are what the
next one finds.
-/

namespace Syfrah

/-- An entry of the log; its index is a number of 64 bits. -/
structure LogEntry (Payload : Type) where
  logId : LogId
  payload : Payload
  index_lt : logId.index < 2 ^ 64

structure LogDb (Payload Vote : Type) where
  -- the entries, by the decimal texts of their indices
  log : Table (LogEntry Payload)
  vote : Option Vote
  lastPurged : Option LogId
  committed : Option LogId

structure LogMemory (Payload Vote : Type) where
  log : Std.ExtTreeMap ℕ (LogEntry Payload)
  lastPurgedLogId : Option LogId
  committed : Option LogId
  vote : Option Vote

structure RedbLogStore (Payload Vote : Type) where
  db : LogDb Payload Vote
  memory : LogMemory Payload Vote

inductive LogTx (Payload Vote : Type)
  | setLog (index : ℕ) (entry : LogEntry Payload)
  | deleteLog (index : ℕ)
  | setPurged (logId : LogId)
  | setCommitted (logId : LogId)
  | setVote (vote : Vote)

variable {Payload Vote : Type}

def LogTx.run : LogTx Payload Vote → LogDb Payload Vote → LogDb Payload Vote
  | setLog index entry, db => { db with log := db.log.insert (toString index) entry }
  | deleteLog index, db => { db with log := db.log.erase (toString index) }
  | setPurged logId, db => { db with lastPurged := some logId }
  | setCommitted logId, db => { db with committed := some logId }
  | setVote vote, db => { db with vote := some vote }

def loadRow (log : Std.ExtTreeMap ℕ (LogEntry Payload)) (row : String × LogEntry Payload) :
    Std.ExtTreeMap ℕ (LogEntry Payload) :=
  match Text.parseUnsigned (2 ^ 64) row.1 with
  | some index => log.insert index row.2
  | none => log

/-- The entries of the log table whose keys are numbers. -/
def loadLog (table : Table (LogEntry Payload)) : Std.ExtTreeMap ℕ (LogEntry Payload) :=
  table.toList.foldl loadRow ∅

namespace RedbLogStore

def new (db : LogDb Payload Vote) : RedbLogStore Payload Vote where
  db := db
  memory :=
    { log := loadLog db.log
      lastPurgedLogId := db.lastPurged
      committed := db.committed
      vote := db.vote }

end RedbLogStore

/-! ### Calls -/

/-- What a call does: the memory it leaves, and the transactions in their order. -/
abbrev LogEffect (Payload Vote : Type) := LogMemory Payload Vote × List (LogTx Payload Vote)

namespace LogMemory

variable (m : LogMemory Payload Vote)

def saveVote (vote : Vote) : LogEffect Payload Vote := ({ m with vote := some vote }, [.setVote vote])

def saveCommitted (committed : Option LogId) : LogEffect Payload Vote :=
  ({ m with committed := committed }, committed.toList.map .setCommitted)

def append (entries : List (LogEntry Payload)) : LogEffect Payload Vote :=
  ({ m with log := entries.foldl (fun log entry => log.insert entry.logId.index entry) m.log },
    entries.map fun entry => .setLog entry.logId.index entry)

/-- Remove entries, in the order of their indices. -/
def remove (keys : List ℕ) : LogEffect Payload Vote :=
  ({ m with log := keys.foldl (fun log key => log.erase key) m.log }, keys.map .deleteLog)

def truncateAfter (lastLogId : Option LogId) : LogEffect Payload Vote :=
  let startIndex := match lastLogId with
    | some logId => (logId.index + 1) % 2 ^ 64
    | none => 0
  m.remove (m.log.keys.filter fun key => startIndex ≤ key)

def purge (logId : LogId) : LogEffect Payload Vote :=
  let (removed, deletions) := m.remove (m.log.keys.filter fun key => key ≤ logId.index)
  ({ removed with lastPurgedLogId := some logId }, .setPurged logId :: deletions)

end LogMemory

inductive LogCall (Payload Vote : Type)
  | saveVote (vote : Vote)
  | saveCommitted (committed : Option LogId)
  | append (entries : List (LogEntry Payload))
  | truncateAfter (lastLogId : Option LogId)
  | purge (logId : LogId)

def LogCall.effect (m : LogMemory Payload Vote) : LogCall Payload Vote → LogEffect Payload Vote
  | saveVote vote => m.saveVote vote
  | saveCommitted committed => m.saveCommitted committed
  | append entries => m.append entries
  | truncateAfter lastLogId => m.truncateAfter lastLogId
  | purge logId => m.purge logId

namespace RedbLogStore

/-- The database when the process stops after some transactions of a call. -/
def stoppedAfter (s : RedbLogStore Payload Vote) (call : LogCall Payload Vote) (n : ℕ) : LogDb Payload Vote :=
  ((call.effect s.memory).2.take n).foldl (fun db tx => tx.run db) s.db

def step (call : LogCall Payload Vote) (s : RedbLogStore Payload Vote) : Unit × RedbLogStore Payload Vote :=
  ((), { db := (call.effect s.memory).2.foldl (fun db tx => tx.run db) s.db
         memory := (call.effect s.memory).1 })

end RedbLogStore

end Syfrah
