import SensorStream.Dispatch.Pipeline

/-!
# One dispatcher in the place of another

A dispatcher that is to take the place of another one is started beside it.  Only
then the earlier one is asked to stop and waited for.  Until it is at its end both
take events from one source and report to one tracker, each at its own pace.
-/

namespace SensorStream

/-- Two dispatchers between one source and one tracker. -/
structure Succession (Source : Type) where
  source : Source
  tracker : Tracker
  earlier : Dispatcher
  later : Dispatcher

/-- What happens next around two dispatchers. -/
inductive Turn where
  /-- The earlier dispatcher takes its next step. -/
  | earlier
  /-- The later dispatcher takes its next step. -/
  | later
  /-- Time passes at the source, at most so many nanoseconds. -/
  | pass (budget : Nat)
  deriving Repr

namespace Succession

variable {Source : Type}

/-- The earlier dispatcher with what it shares with the later one. -/
def earlierSide (succession : Succession Source) : Pipeline Source :=
  ⟨succession.source, succession.tracker, succession.earlier⟩

/-- The later dispatcher with what it shares with the earlier one. -/
def laterSide (succession : Succession Source) : Pipeline Source :=
  ⟨succession.source, succession.tracker, succession.later⟩

/-- What the earlier dispatcher's work has made of its side. -/
def withEarlier (succession : Succession Source) (pipeline : Pipeline Source) :
    Succession Source :=
  ⟨pipeline.source, pipeline.tracker, pipeline.dispatcher, succession.later⟩

/-- What the later dispatcher's work has made of its side. -/
def withLater (succession : Succession Source) (pipeline : Pipeline Source) :
    Succession Source :=
  ⟨pipeline.source, pipeline.tracker, succession.earlier, pipeline.dispatcher⟩

/-- Ask the earlier dispatcher to stop. -/
def requestStop (succession : Succession Source) : Succession Source :=
  { succession with earlier := succession.earlier.requestStop }

variable [EventSource Source]

def turn (succession : Succession Source) : Turn → Succession Source
  | .earlier => succession.withEarlier succession.earlierSide.step
  | .later => succession.withLater succession.laterSide.step
  | .pass budget =>
      match EventSource.advance budget succession.source with
      | none => succession
      | some elapsed => { succession with source := elapsed.world }

/-- Let things happen in this order. -/
def play (succession : Succession Source) (turns : List Turn) : Succession Source :=
  turns.foldl turn succession

/-- Ask the earlier dispatcher to stop and wait for its end. -/
def conclude (succession : Succession Source) : Succession Source :=
  succession.withEarlier succession.earlierSide.join.2

end Succession

end SensorStream
