import BiometricSession.Inspect
import BiometricSession.Log

/-!
# Watching processes

A token can be backed by a real process.  A watcher looks at the process from
time to time and declares the token dead once the process is gone.
-/

namespace BiometricSession

/-- Which process numbers belong to a running process. -/
structure ProcessTable where
  running : UInt32 → Bool

namespace ProcessTable

/-- Whether a process is alive.  Numbers from `2 ^ 31` up never name one. -/
def alive (processes : ProcessTable) (process : UInt32) : Bool :=
  process.toNat < UInt32.size / 2 && processes.running process

end ProcessTable

/-- What a watcher finds when it looks at a token and its process. -/
inductive WatchFinding where
  /-- Somebody else has declared the token dead. -/
  | tokenDead
  /-- The process is gone while the token is alive. -/
  | processGone
  /-- The process runs on, and so does the watcher. -/
  | running
  deriving DecidableEq, Repr

namespace WatchFinding

/-- The finding about a token, given whether it and its process are alive. -/
def of (tokenAlive processAlive : Bool) : WatchFinding :=
  if !tokenAlive then
    tokenDead
  else if !processAlive then
    processGone
  else
    running

/-- Whether the watcher has nothing left to do. -/
def isFinal : WatchFinding → Bool
  | tokenDead | processGone => true
  | running => false

def report (process : UInt32) : WatchFinding → List LogRecord
  | tokenDead =>
      [.service .debug ("Token for pid " ++ inspect process ++ " already dead, watcher exiting")]
  | processGone =>
      [.service .info
        ("Client process " ++ inspect process ++ " exited, notifying death recipients")]
  | running => []

end WatchFinding

end BiometricSession
