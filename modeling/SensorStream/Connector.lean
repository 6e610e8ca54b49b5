import SensorStream.Error
import SensorStream.Log
import SensorStream.Span

/-!
# Connecting with retries

A connection is tried a limited number of times.  The first success ends the
trying, and so does the news that the source is shut down; every other failure
is followed by a pause and another attempt, as long as the limit allows.
-/

namespace SensorStream

/-- How connections are tried. -/
structure Connector where
  maxAttempts : Nat
  retryDelay : Span
  maxAttempts_pos : 0 < maxAttempts

/-- How a connector gets at the source in the world around it. -/
structure Approach (World : Type) where
  acquire : World → Except AcquireError Handle × World
  pause : Span → World → World

/-- The course of the attempts: the failures in their order, and the handle if
the last attempt was a success. -/
structure Attempts where
  failures : List AcquireError
  handle? : Option Handle
  deriving DecidableEq, Repr

namespace Attempts

/-- The handle, or the failure of the last attempt. -/
def result (attempts : Attempts) : Except AcquireError Handle :=
  match attempts.handle? with
  | some handle => .ok handle
  | none => .error (attempts.failures.getLastD .refused)

def count (attempts : Attempts) : Nat :=
  attempts.failures.length + if attempts.handle?.isSome then 1 else 0

end Attempts

namespace Connector

theorem limit_pos (maxAttempts : Nat) : 0 < max maxAttempts 1 := by
  omega

/-- A limit of zero counts as one. -/
def limitedTo (maxAttempts : Nat) (retryDelay : Span) : Connector :=
  ⟨max maxAttempts 1, retryDelay, limit_pos maxAttempts⟩

variable {World : Type}

/-- Make attempts until one ends the trying, but at most so many. -/
def attemptUpTo (connector : Connector) (approach : Approach World) :
    Nat → World → Attempts × World
  | 0, world => (⟨[], none⟩, world)
  | attempts + 1, world =>
      match approach.acquire world with
      | (.ok handle, world) => (⟨[], some handle⟩, world)
      | (.error error, world) =>
          if error = .sourceClosed then (⟨[error], none⟩, world)
          else
            let world :=
              if attempts = 0 || connector.retryDelay.isZero then world
              else approach.pause connector.retryDelay world
            let (later, world) := connector.attemptUpTo approach attempts world
            ({ later with failures := error :: later.failures }, world)

def connect (connector : Connector) (approach : Approach World) (world : World) :
    Attempts × World :=
  connector.attemptUpTo approach connector.maxAttempts world

/-- Where an attempt stands among those allowed. -/
def position (connector : Connector) (attempt : Nat) : String :=
  toString attempt ++ "/" ++ toString connector.maxAttempts

def attemptNote (connector : Connector) (sensor : Descriptor) (attempt : Nat) : LogLine :=
  .info ("Connecting to sensor " ++ sensor.identifier ++ " on IO interface "
    ++ sensor.transport.key ++ " (attempt " ++ connector.position attempt ++ ")")

/-- What is logged about failures, the first of which has the given number. -/
def failureNotes (connector : Connector) (sensor : Descriptor) :
    Nat → List AcquireError → List LogLine
  | _, [] => []
  | attempt, error :: later =>
      connector.attemptNote sensor attempt
        :: .warn ("Connection attempt " ++ connector.position attempt ++ " failed: "
          ++ error.message)
        :: connector.failureNotes sensor (attempt + 1) later

def notes (connector : Connector) (sensor : Descriptor) (attempts : Attempts) : List LogLine :=
  connector.failureNotes sensor 1 attempts.failures ++
    match attempts.handle? with
    | none => []
    | some handle =>
        [connector.attemptNote sensor (attempts.failures.length + 1),
          .info ("Successfully connected to sensor " ++ sensor.identifier ++ " as "
            ++ handle.label)]

end Connector

end SensorStream
