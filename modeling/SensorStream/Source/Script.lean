import SensorStream.Source.EventSource

/-!
# Scripted sources

A source that plays back what was written down for it: a list of cues for the
waits, a list of results for the listings and one for the connections.  Listings
and connections may bring further cues.
-/

namespace SensorStream

/-- What one wait is answered with. -/
inductive Cue where
  | event (event : Event)
  /-- Nothing arrives in time. -/
  | silence
  | failure (error : ClientError)
  /-- The thread that waits does not survive it. -/
  | panic
  deriving Repr

namespace Cue

def toWaitResult : Cue → WaitResult
  | .event arriving => .event arriving
  | .silence => .nothing
  | .failure cause => .failed cause
  | .panic => .panicked

/-- Whether the waiting thread comes to its end. -/
def isFatal : Cue → Bool
  | .event _ => false
  | .silence => false
  | .failure _ => true
  | .panic => true

end Cue

structure Script where
  cues : List Cue
  /-- Results of the listings to come, with the cues that each brings.  When they
  are used up, listings succeed and bring nothing. -/
  listings : List (Except ClientError (List Cue))
  /-- Results of the connections to come.  When they are used up, connections
  are refused. -/
  connections : List (Except AcquireError (Handle × List Cue))
  /-- After shutting down nothing arrives any more. -/
  isShutDown : Bool
  /-- Whether a cue that ends the waiting thread was played. -/
  hasFailed : Bool

namespace Script

/-- A script with no cues of its own. -/
def ofResults (listings : List (Except ClientError (List Cue)))
    (connections : List (Except AcquireError (Handle × List Cue))) : Script :=
  ⟨[], listings, connections, false, false⟩

def push (script : Script) (cues : List Cue) : Script :=
  { script with cues := script.cues ++ cues }

def list (script : Script) : Except ClientError Unit × Script :=
  match script.listings with
  | [] => (.ok (), script)
  | .ok cues :: later => (.ok (), { script with listings := later }.push cues)
  | .error error :: later => (.error error, { script with listings := later })

def wait (script : Script) : WaitResult × Script :=
  if script.isShutDown then (.nothing, script)
  else match script.cues with
    | [] => (.nothing, script)
    | cue :: later =>
        (cue.toWaitResult,
          { script with cues := later, hasFailed := script.hasFailed || cue.isFatal })

def acquire (script : Script) : Except AcquireError Handle × Script :=
  match script.connections with
  | [] => (.error .refused, script)
  | .ok (handle, cues) :: later => (.ok handle, { script with connections := later }.push cues)
  | .error error :: later => (.error error, { script with connections := later })

instance : EventSource Script where
  list := list
  wait := wait
  acquire _ := acquire
  release _ script := (.ok (), script)
  shutdown script := { script with isShutDown := true }
  advance _ _ := none
  backlog script := if script.isShutDown then 0 else script.cues.length

end Script

end SensorStream
