import Syfrah.Fabric.Peering
import Syfrah.Fabric.ReplayGuard
import Syfrah.Lib.Run

/-!
# PIN attempts, step by step

The task of a connection takes the lock of the rate limiter twice: for the lock-out test, and again to
record a failure. In between it compares the PIN, and other tasks may run. Instants are in nanoseconds.
-/

namespace Syfrah

namespace Mesh

def pinLockoutNanos : ℕ := pinLockoutWindow * nanosPerSec

/-- The task of a connection with a PIN, by what it does next. -/
inductive PinConnection
  | arrived (ip pin : String)
  /-- It holds the configuration, with the PIN that it has then. -/
  | checking (ip pin configured : String)
  | comparing (ip pin configured : String)
  | recording (ip : String)
  | finished
deriving DecidableEq

structure PinChecks where
  now : ℕ
  configured : Option String
  attempts : PinRateLimiter
  connections : List PinConnection
  /-- The addresses that sent a wrong PIN, and when it was compared. -/
  compared : List (String × ℕ)

inductive PinAct
  | tick (nanos : ℕ)
  | configure (pin : Option String)
  | connect (ip pin : String)
  | advance (i : ℕ)

namespace PinChecks

def start (configured : Option String) : PinChecks := ⟨0, configured, ∅, [], []⟩

/-- The failures of an address that have not expired. -/
def unexpired (s : PinChecks) (ip : String) : List ℕ :=
  (s.attempts[ip]?.getD []).filter fun t => s.now - t < pinLockoutNanos

def isLockedOut (s : PinChecks) (ip : String) : Bool := maxPinAttempts ≤ (s.unexpired ip).length

def setConnection (s : PinChecks) (i : ℕ) (c : PinConnection) : PinChecks :=
  { s with connections := s.connections.set i c }

def advance (s : PinChecks) (i : ℕ) : PinConnection → PinChecks
  | .arrived ip pin => match s.configured with
    | some configured => s.setConnection i (.checking ip pin configured)
    | none => s.setConnection i .finished
  | .checking ip pin configured =>
    { s with attempts := s.attempts.insert ip (s.unexpired ip) }.setConnection i
      (if s.isLockedOut ip then .finished else .comparing ip pin configured)
  | .comparing ip pin configured =>
    if configured = pin then s.setConnection i .finished
    else { s with compared := (ip, s.now) :: s.compared }.setConnection i (.recording ip)
  | .recording ip =>
    { s with attempts := s.attempts.insert ip (s.unexpired ip ++ [s.now]) }.setConnection i .finished
  | .finished => s

def step : PinAct → PinChecks → Unit × PinChecks
  | .tick nanos, s => ((), { s with now := s.now + nanos })
  | .configure pin, s => ((), { s with configured := pin })
  | .connect ip pin, s => ((), { s with connections := s.connections ++ [.arrived ip pin] })
  | .advance i, s => ((), match s.connections[i]? with
      | some c => s.advance i c
      | none => s)

end PinChecks

end Mesh

end Syfrah
