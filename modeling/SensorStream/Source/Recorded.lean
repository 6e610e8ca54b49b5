import SensorStream.Source.EventSource

/-!
# Recorded sources

A source together with the number of requests that were made of it.
-/

namespace SensorStream

/-- How often each request was made. -/
structure CallCounts where
  list : Nat
  acquire : Nat
  release : Nat
  shutdown : Nat
  deriving DecidableEq, Repr

namespace CallCounts

def zero : CallCounts :=
  ⟨0, 0, 0, 0⟩

end CallCounts

/-- A source and the requests made of it. -/
structure Recorded (Source : Type) where
  source : Source
  calls : CallCounts

namespace Recorded

variable {Source : Type}

def start (source : Source) : Recorded Source :=
  ⟨source, .zero⟩

def update (recorded : Recorded Source) (change : Source → Source) : Recorded Source :=
  { recorded with source := change recorded.source }

instance [EventSource Source] : EventSource (Recorded Source) where
  list recorded :=
    let (result, source) := EventSource.list recorded.source
    (result, ⟨source, { recorded.calls with list := recorded.calls.list + 1 }⟩)
  wait recorded :=
    let (result, source) := EventSource.wait recorded.source
    (result, ⟨source, recorded.calls⟩)
  acquire sensor recorded :=
    let (result, source) := EventSource.acquire sensor recorded.source
    (result, ⟨source, { recorded.calls with acquire := recorded.calls.acquire + 1 }⟩)
  release handle recorded :=
    let (result, source) := EventSource.release handle recorded.source
    (result, ⟨source, { recorded.calls with release := recorded.calls.release + 1 }⟩)
  shutdown recorded :=
    ⟨EventSource.shutdown recorded.source,
      { recorded.calls with shutdown := recorded.calls.shutdown + 1 }⟩
  advance budget recorded :=
    (EventSource.advance budget recorded.source).map
      (Elapsed.map fun source => ⟨source, recorded.calls⟩)
  backlog recorded := EventSource.backlog recorded.source

end Recorded

end SensorStream
