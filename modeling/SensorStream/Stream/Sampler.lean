import SensorStream.Error
import SensorStream.Log
import SensorStream.Span
import SensorStream.Stream.Channel
import SensorStream.Stream.Elapsed
import SensorStream.Tally

/-!
# Consuming samples

The consumer receives samples one by one, with or without waiting, or observes
all that arrive within a window of time.  All four ways take from one channel,
so each sample is handed out once.

While the consumer waits, others act: they may send, or drop the sending end.
`Surroundings` says how a waiting consumer finds the channel in the world around
it and what may happen there meanwhile.
-/

namespace SensorStream

open Channel (Arrival)

/-- The world around a consumer. -/
structure Surroundings (World : Type) where
  sink : World → Channel
  /-- The world with another state of that channel. -/
  withSink : Channel → World → World
  /-- What happens next within a budget of time, if anything does. -/
  idle : (budget : Nat) → World → Option (Elapsed budget World)
  /-- What happens while the consumer handles a sample, which takes time. -/
  lapse : (budget : Nat) → 0 < budget → World → Elapsed budget World

namespace Surroundings

/-- A world in which nothing but the channel exists and nobody else acts. -/
def still : Surroundings Channel where
  sink channel := channel
  withSink channel _ := channel
  idle _ _ := none
  lapse budget positive channel := ⟨budget - 1, Elapsed.pred_lt positive, channel⟩

variable {World : Type} (surroundings : Surroundings World)

/-- Look for a sample without waiting. -/
def poll (world : World) : Arrival × World :=
  let (arrival, rest) := (surroundings.sink world).receive
  (arrival, surroundings.withSink rest world)

/-- What a consumer found, and how much of its time is left. -/
structure Reception (World : Type) where
  arrival : Arrival
  left : Nat
  world : World

/-- Wait for a sample for at most `budget` nanoseconds. -/
def receiveWithin (budget : Nat) (world : World) : Reception World :=
  match surroundings.poll world with
  | (.nothing, _) =>
      match surroundings.idle budget world with
      | none => ⟨.nothing, 0, world⟩
      | some elapsed => receiveWithin elapsed.left elapsed.world
  | (arrival, rest) => ⟨arrival, budget, rest⟩
termination_by budget
decreasing_by exact elapsed.left_lt

/-- The samples of a window, whether the stream stopped before the window was
over, and the world afterwards. -/
structure Window (World : Type) where
  seen : List StreamedSample
  stoppedEarly : Bool
  world : World

/-- Take every sample that arrives within a window.  Handling one takes time of
the window as well; a window of length zero takes nothing. -/
def collect (window : Nat) (world : World) : Window World :=
  if isOver : window = 0 then ⟨[], false, world⟩
  else match surroundings.poll world with
    | (.sample sample, rest) =>
        let elapsed := surroundings.lapse window (by omega) rest
        let later := collect elapsed.left elapsed.world
        { later with seen := sample :: later.seen }
    | (.stopped, _) => ⟨[], true, world⟩
    | (.nothing, _) =>
        match surroundings.idle window world with
        | none => ⟨[], false, world⟩
        | some elapsed => collect elapsed.left elapsed.world
termination_by window
decreasing_by all_goals exact elapsed.left_lt

end Surroundings

/-- The totals of one observation: all samples, and the samples of each
sensor.  No number exceeds that of the samples, so words of 64 bits hold them for
any observation of fewer than `2 ^ 64`. -/
structure Totals where
  accepted : Nat
  perSensor : Tally
  deriving DecidableEq, Repr

namespace Totals

def empty : Totals :=
  ⟨0, .empty⟩

def record (totals : Totals) (sample : StreamedSample) : Totals :=
  ⟨totals.accepted + 1, totals.perSensor.add sample.sensor⟩

def ofSamples (samples : List StreamedSample) : Totals :=
  samples.foldl record empty

/-- One sample more is recorded last. -/
theorem ofSamples_concat (samples : List StreamedSample) (sample : StreamedSample) :
    ofSamples (samples ++ [sample]) = (ofSamples samples).record sample :=
  List.foldl_append

end Totals

structure Observation where
  totals : Totals
  seen : List StreamedSample
  /-- The stream ended before the window did. -/
  stoppedEarly : Bool
  deriving Repr

namespace Surroundings

variable {World : Type} (surroundings : Surroundings World)

def observe (window : Span) (world : World) : Observation × World :=
  let collected := surroundings.collect window.nanoseconds world
  (⟨.ofSamples collected.seen, collected.seen, collected.stoppedEarly⟩, collected.world)

end Surroundings

namespace Channel.Arrival

/-- The sample that arrived, or why a consumer that waited has none. -/
def toExcept : Arrival → Except ClientError StreamedSample
  | .sample received => .ok received
  | .nothing => .error .timeout
  | .stopped => .error .streamStopped

/-- What becomes of a call that waits without a limit: as long as nothing is there it has no answer
yet. -/
def answer? : Arrival → Option (Except ClientError StreamedSample)
  | .sample received => some (.ok received)
  | .nothing => none
  | .stopped => some (.error .streamStopped)

end Channel.Arrival

namespace Surroundings

variable {World : Type} (surroundings : Surroundings World)

/-- Take a sample without waiting. -/
def tryReceive (world : World) : Option StreamedSample × World :=
  let (arrival, rest) := surroundings.poll world
  (arrival.sample?, rest)

/-- Take a sample, waiting for it as long as it takes.  There is no answer if the call still
waits after `patience` nanoseconds. -/
def receive (patience : Nat) (world : World) :
    Option (Except ClientError StreamedSample) × World :=
  let reception := surroundings.receiveWithin patience world
  (reception.arrival.answer?, reception.world)

/-- Take a sample, waiting for it at most a span of time. -/
def receiveTimeout (timeout : Span) (world : World) :
    Except ClientError StreamedSample × World :=
  let reception := surroundings.receiveWithin timeout.nanoseconds world
  (reception.arrival.toExcept, reception.world)

end Surroundings

namespace Observation

def notes (observation : Observation) : List LogLine :=
  let warning : List LogLine :=
    if observation.stoppedEarly then
      [.warn "Sample stream stopped before the observation window ended"]
    else []
  warning ++
    [.info ("Observation window over: " ++ toString observation.totals.accepted
      ++ " sample(s) accepted")]

end Observation

end SensorStream
