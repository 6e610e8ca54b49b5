import SensorStream.Dispatch.Succession
import SensorStream.Stream.Sampler

/-!
# Schedules

The dispatcher runs beside its caller.  A schedule decides what the dispatcher
and the source do between any two things that the caller does, and while the
caller waits, and how two dispatchers act side by side while the one takes the
place of the other.  A schedule is free in its choice, but whatever it lets happen
is made of steps of the dispatchers and of time passing at the source.  A statement
about every schedule is a statement about every interleaving.

The patient schedule lets the dispatcher come to rest whenever it can, until the
caller asks it to stop.
-/

namespace SensorStream

/-- What can become of a pipeline while its caller does nothing. -/
inductive Moves {Source : Type} [EventSource Source] :
    Pipeline Source → Pipeline Source → Prop where
  | rest (pipeline : Pipeline Source) : Moves pipeline pipeline
  | step {first last : Pipeline Source} : Moves first.step last → Moves first last
  | advance {first last : Pipeline Source} {budget : Nat} {elapsed : Elapsed budget Source} :
      EventSource.advance budget first.source = some elapsed →
      Moves { first with source := elapsed.world } last → Moves first last

namespace Moves

variable {Source : Type} [EventSource Source]

theorem trans {first middle last : Pipeline Source}
    (before : Moves first middle) (after : Moves middle last) : Moves first last := by
  induction before with
  | rest => exact after
  | step _ ih => exact .step (ih after)
  | advance passes _ ih => exact .advance passes (ih after)

theorem settleWithin (steps : Nat) (pipeline : Pipeline Source) :
    Moves pipeline (pipeline.settleWithin steps) := by
  induction steps generalizing pipeline with
  | zero => exact .rest pipeline
  | succ steps ih =>
      simp only [Pipeline.settleWithin]
      split
      · exact .rest pipeline
      · exact .step (ih pipeline.step)

theorem settle (pipeline : Pipeline Source) : Moves pipeline pipeline.settle :=
  settleWithin _ pipeline

end Moves

/-- What happens beside the caller.  The first argument of each choice counts the
choices made so far, so that no two of them need to be alike. -/
structure Schedule (Source : Type) [EventSource Source] where
  /-- What happens between two actions of the caller. -/
  between : Nat → Pipeline Source → Pipeline Source
  /-- What happens next while the caller waits, if anything does within its
  budget of time. -/
  idle : Nat → (budget : Nat) → Pipeline Source → Option (Elapsed budget (Pipeline Source))
  /-- What happens while the caller handles a sample. -/
  lapse : Nat → (budget : Nat) → 0 < budget → Pipeline Source →
    Elapsed budget (Pipeline Source)
  /-- What happens while two dispatchers are at work. -/
  overlap : Nat → Succession Source → List Turn
  /-- The readings of the clock, in nanoseconds. -/
  clock : Nat → Nat
  between_moves : ∀ tick pipeline, Moves pipeline (between tick pipeline)
  idle_moves : ∀ tick budget pipeline elapsed,
    idle tick budget pipeline = some elapsed → Moves pipeline elapsed.world
  lapse_moves : ∀ tick budget positive pipeline,
    Moves pipeline (lapse tick budget positive pipeline).world

namespace Schedule

variable {Source : Type} [EventSource Source]

/-- While a caller waits, first the dispatcher comes to rest, and then time passes
until the source has something new for it. -/
def patientIdle (budget : Nat) (pipeline : Pipeline Source) :
    Option (Elapsed budget (Pipeline Source)) :=
  if positive : 0 < budget then
    if pipeline.atRest then
      (EventSource.advance budget pipeline.source).map
        (Elapsed.map fun source => { pipeline with source := source })
    else some ⟨budget - 1, Elapsed.pred_lt positive, pipeline.settle⟩
  else none

theorem patientIdle_moves (budget : Nat) (pipeline : Pipeline Source)
    (elapsed : Elapsed budget (Pipeline Source))
    (happens : patientIdle budget pipeline = some elapsed) : Moves pipeline elapsed.world := by
  simp only [patientIdle] at happens
  split at happens
  · split at happens
    · obtain ⟨passed, passes, rfl⟩ := Option.map_eq_some_iff.1 happens
      exact .advance passes (.rest _)
    · cases happens
      exact Moves.settle pipeline
  · simp at happens

/-- Between two actions of the caller the dispatcher comes to rest, but a dispatcher
that was asked to stop is not seen at work again before it is joined. -/
def patientBetween (pipeline : Pipeline Source) : Pipeline Source :=
  if pipeline.dispatcher.stopRequested then pipeline else pipeline.settle

theorem patientBetween_moves (pipeline : Pipeline Source) :
    Moves pipeline (patientBetween pipeline) := by
  simp only [patientBetween]
  split
  · exact .rest pipeline
  · exact Moves.settle pipeline

/-- The schedule in which the dispatcher gets on as far as it can until it is asked
to stop, one that takes the place of another waits for the end of that one, and
handling a sample takes a nanosecond.  Its clock has been running for a second. -/
def patient : Schedule Source where
  between _ := patientBetween
  idle _ := patientIdle
  lapse _ budget positive pipeline := ⟨budget - 1, Elapsed.pred_lt positive, pipeline⟩
  overlap _ _ := []
  clock _ := 1000000000
  between_moves _ := patientBetween_moves
  idle_moves _ := patientIdle_moves
  lapse_moves _ _ _ pipeline := .rest pipeline

/-- The later dispatcher has been at work beside the earlier one, and now the earlier
one is asked to stop. -/
def beside (schedule : Schedule Source) (tick : Nat) (succession : Succession Source) :
    Succession Source :=
  (succession.play (schedule.overlap tick succession)).requestStop

/-- The earlier dispatcher has been at work since it was asked to stop, and now its end is
awaited. -/
def parting (schedule : Schedule Source) (tick : Nat) (succession : Succession Source) :
    Succession Source :=
  (schedule.beside tick succession).play
    (schedule.overlap (tick + 1) (schedule.beside tick succession))

/-- Let the later dispatcher take the place of the earlier one, which comes to its end
meanwhile. -/
def replace (schedule : Schedule Source) (tick : Nat) (succession : Succession Source) :
    Succession Source :=
  (schedule.parting tick succession).conclude

end Schedule

/-- A pipeline under a schedule, and the number of choices made so far. -/
structure Scene (Source : Type) where
  pipeline : Pipeline Source
  tick : Nat

namespace Scene

variable {Source : Type} [EventSource Source]

/-- Let happen what happens between two actions of the caller. -/
def between (schedule : Schedule Source) (scene : Scene Source) : Scene Source :=
  ⟨schedule.between scene.tick scene.pipeline, scene.tick + 1⟩

/-- What happens next while the caller waits. -/
def idle (schedule : Schedule Source) (budget : Nat) (scene : Scene Source) :
    Option (Elapsed budget (Scene Source)) :=
  (schedule.idle scene.tick budget scene.pipeline).map
    (Elapsed.map fun pipeline => ⟨pipeline, scene.tick + 1⟩)

/-- What happens while the caller handles a sample. -/
def lapse (schedule : Schedule Source) (budget : Nat) (positive : 0 < budget)
    (scene : Scene Source) : Elapsed budget (Scene Source) :=
  (schedule.lapse scene.tick budget positive scene.pipeline).map
    fun pipeline => ⟨pipeline, scene.tick + 1⟩

def sleep (schedule : Schedule Source) (budget : Nat) (scene : Scene Source) : Scene Source :=
  match scene.idle schedule budget with
  | none => scene
  | some elapsed => elapsed.world.sleep schedule elapsed.left
termination_by budget
decreasing_by exact elapsed.left_lt

/-- Change the dispatcher's side. -/
def update (scene : Scene Source) (change : Pipeline Source → Pipeline Source) : Scene Source :=
  { scene with pipeline := change scene.pipeline }

/-- The world around the consumer at the other end of the dispatcher's channel. -/
def surroundings (schedule : Schedule Source) : Surroundings (Scene Source) where
  sink scene := scene.pipeline.dispatcher.sink
  withSink sink scene :=
    scene.update fun pipeline =>
      pipeline.updateDispatcher fun dispatcher => { dispatcher with sink := sink }
  idle := idle schedule
  lapse := lapse schedule

end Scene

end SensorStream
