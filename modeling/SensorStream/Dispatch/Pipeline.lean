import SensorStream.Discovery.Tracker
import SensorStream.Dispatch.Dispatcher

/-!
# Source, tracker and dispatcher together

The dispatcher at work between a source and a tracker.  `Pipeline.step` is the
next step of the dispatcher, whichever it is; everything that a dispatcher can
do is a sequence of these steps, interrupted by what its caller and its source
do.

A dispatcher that was asked to stop reaches its end within eight steps, so
joining it needs no bound; `Pipeline.join` runs it to its end.
-/

namespace SensorStream

/-- A dispatcher with its source and its tracker. -/
structure Pipeline (Source : Type) where
  source : Source
  tracker : Tracker
  dispatcher : Dispatcher

/-- Why a dispatcher has come to rest. -/
inductive Standing where
  /-- The source has nothing for it. -/
  | idle
  /-- It is at its end. -/
  | ended
  /-- It holds a sample that does not fit into the channel. -/
  | blocked
  deriving DecidableEq, Repr

namespace Pipeline

variable {Source : Type} [EventSource Source]

/-- The next step of the dispatcher. -/
def step (pipeline : Pipeline Source) : Pipeline Source :=
  let dispatcher := pipeline.dispatcher
  match dispatcher.phase with
  | .waiting =>
      let (result, source) := EventSource.wait pipeline.source
      { pipeline with source := source, dispatcher := dispatcher.resume result }
  | .recording notice =>
      { pipeline with
        tracker := pipeline.tracker.record notice
        dispatcher := { dispatcher with phase := .checking } }
  | _ => { pipeline with dispatcher := dispatcher.step }

/-- Change what the caller shares with the dispatcher. -/
def updateDispatcher (pipeline : Pipeline Source) (change : Dispatcher → Dispatcher) :
    Pipeline Source :=
  { pipeline with dispatcher := change pipeline.dispatcher }

/-- Change the source. -/
def updateSource (pipeline : Pipeline Source) (change : Source → Source) : Pipeline Source :=
  { pipeline with source := change pipeline.source }

/-! ## Coming to rest -/

/-- Why the dispatcher can do nothing until somebody else does something. -/
def standing? (pipeline : Pipeline Source) : Option Standing :=
  let dispatcher := pipeline.dispatcher
  if !dispatcher.isRunning then some .ended
  else if dispatcher.stopRequested then none
  else if dispatcher.held?.isSome then some .blocked
  else match dispatcher.phase with
    | .checking => if EventSource.backlog pipeline.source = 0 then some .idle else none
    | .waiting => if EventSource.backlog pipeline.source = 0 then some .idle else none
    | _ => none

def atRest (pipeline : Pipeline Source) : Bool :=
  pipeline.standing?.isSome

/-- Let the dispatcher go on until it is at rest, for at most so many steps. -/
def settleWithin : Nat → Pipeline Source → Pipeline Source
  | 0, pipeline => pipeline
  | steps + 1, pipeline => if pipeline.atRest then pipeline else settleWithin steps pipeline.step

/-- Let the dispatcher go on until it is at rest.  No event takes more than eight
steps. -/
def settle (pipeline : Pipeline Source) : Pipeline Source :=
  pipeline.settleWithin (8 * (EventSource.backlog pipeline.source + 2))

/-! ## Coming to the end -/

/-- A request to stop stays. -/
theorem stopRequested_step (pipeline : Pipeline Source) :
    pipeline.step.dispatcher.stopRequested = pipeline.dispatcher.stopRequested := by
  rcases pipeline with ⟨source, tracker, dispatcher⟩
  simp only [step]
  split
  · simp only [Dispatcher.resume]
    split <;> rfl
  · rfl
  · simp only [Dispatcher.step, Dispatcher.handle, Dispatcher.downSample, Dispatcher.deliver]
    split <;> (repeat' split) <;> rfl

/-- After a request to stop every step leads towards the end. -/
theorem distance_step_lt (pipeline : Pipeline Source)
    (requested : pipeline.dispatcher.stopRequested = true)
    (running : pipeline.dispatcher.phase.distance ≠ 0) :
    pipeline.step.dispatcher.phase.distance < pipeline.dispatcher.phase.distance := by
  rcases pipeline with ⟨source, tracker, dispatcher⟩
  rcases dispatcher with ⟨phase, stopRequested, stats, downSampler, attached, sink⟩
  simp only at requested running ⊢
  subst requested
  cases phase with
  | ended exit => exact absurd rfl running
  | waiting =>
      simp only [step, Dispatcher.resume]
      split <;> simp [Phase.distance, Dispatcher.finish]
  | recording notice => simp [step, Phase.distance]
  | checking => simp [step, Dispatcher.step, Dispatcher.finish, Phase.distance]
  | suppressing => simp [step, Dispatcher.step, Phase.distance]
  | forwarding => simp [step, Dispatcher.step, Phase.distance]
  | dropping => simp [step, Dispatcher.step, Phase.distance]
  | stalled sample => simp [step, Dispatcher.step, Phase.distance]
  | handling event =>
      simp only [step, Dispatcher.step, Dispatcher.handle]
      split <;> simp [Phase.distance]
  | admitting sensor sample =>
      simp only [step, Dispatcher.step, Dispatcher.downSample]
      split
      · simp [Phase.distance]
      · split <;> simp [Phase.distance]
  | delivering sample =>
      simp only [step, Dispatcher.step, Dispatcher.deliver]
      split <;> simp [Phase.distance]

/-- Run a dispatcher that was asked to stop to its end. -/
def runToEnd (pipeline : Pipeline Source) (requested : pipeline.dispatcher.stopRequested = true) :
    DispatchExit × Pipeline Source :=
  match _ : pipeline.dispatcher.exit? with
  | some exit => (exit, pipeline)
  | none => runToEnd pipeline.step ((stopRequested_step pipeline).trans requested)
termination_by pipeline.dispatcher.phase.distance
decreasing_by exact distance_step_lt pipeline requested (Dispatcher.distance_of_running ‹_›)

/-- Ask the dispatcher to stop and wait for its end. -/
def join (pipeline : Pipeline Source) : DispatchExit × Pipeline Source :=
  runToEnd (pipeline.updateDispatcher Dispatcher.requestStop) rfl

end Pipeline

end SensorStream
