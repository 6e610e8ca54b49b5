import SensorStream.Error
import SensorStream.Event
import SensorStream.Source.EventSource
import SensorStream.Stream.Channel
import SensorStream.Stream.DownSampler

/-!
# The dispatcher

The dispatcher takes events from a source one by one.  Discovery events go to
the tracker, measurements are down-sampled and go to the consumer's channel.
It runs beside its caller, who may ask it to stop and read its counters at any
moment, so what it does is split into steps that are each done at one instant;
the phase says which step comes next.

The dispatcher looks at the request to stop in two phases only: before each wait
for an event, and each time the channel turned out to be full.
-/

namespace SensorStream

/-- How the dispatcher came to its end. -/
inductive DispatchExit where
  | cancelled
  | sourceClosed
  | sourceFailed (report : String)
  deriving DecidableEq, Repr

/-- What the dispatcher has counted.  No count exceeds the number of events that it took, so
counters of 64 bits show the same until it has taken `2 ^ 64` of them. -/
structure DispatchStats where
  systemEvents : Nat
  received : Nat
  forwarded : Nat
  suppressed : Nat
  /-- Samples that passed down-sampling but found no consumer. -/
  dropped : Nat
  deriving DecidableEq, Repr

namespace DispatchStats

def zero : DispatchStats :=
  ⟨0, 0, 0, 0, 0⟩

/-- No count exceeds this. -/
structure Within (stats : DispatchStats) (bound : Nat) : Prop where
  systemEvents : stats.systemEvents ≤ bound
  received : stats.received ≤ bound
  forwarded : stats.forwarded ≤ bound
  suppressed : stats.suppressed ≤ bound
  dropped : stats.dropped ≤ bound

end DispatchStats

/-- What the dispatcher does next. -/
inductive Phase where
  /-- Look whether it was asked to stop. -/
  | checking
  | waiting
  /-- Count an event and decide where it goes. -/
  | handling (event : Event)
  /-- Hand a counted discovery event to the tracker. -/
  | recording (notice : Notice)
  /-- Down-sample a counted measurement. -/
  | admitting (sensor : Handle) (sample : Sample)
  /-- Count a measurement that is left out. -/
  | suppressing
  /-- Send a sample. -/
  | delivering (sample : StreamedSample)
  /-- The channel was full; look whether to give up. -/
  | stalled (sample : StreamedSample)
  /-- Count a sample that was sent. -/
  | forwarding
  /-- Count a sample that will not be sent. -/
  | dropping
  /-- Nothing: the dispatcher is at its end. -/
  | ended (exit : DispatchExit)
  deriving Repr

/-- The dispatcher and what it shares with its caller. -/
structure Dispatcher where
  phase : Phase
  stopRequested : Bool
  stats : DispatchStats
  downSampler : DownSampler
  /-- Whether it still sends; once the consumer was found gone it never does. -/
  attached : Bool
  sink : Channel
  deriving Repr

namespace Dispatcher

def spawn (every : UInt64) (sink : Channel) : Dispatcher where
  phase := .checking
  stopRequested := false
  stats := .zero
  downSampler := .fresh every
  attached := true
  sink := sink

def requestStop (dispatcher : Dispatcher) : Dispatcher :=
  { dispatcher with stopRequested := true }

/-- The exit of a dispatcher at its end. -/
def exit? (dispatcher : Dispatcher) : Option DispatchExit :=
  match dispatcher.phase with
  | .ended exit => some exit
  | _ => none

def isRunning (dispatcher : Dispatcher) : Bool :=
  dispatcher.exit?.isNone

/-- Come to the end.  The sending end of the channel goes away with it. -/
def finish (dispatcher : Dispatcher) (exit : DispatchExit) : Dispatcher :=
  { dispatcher with phase := .ended exit, sink := dispatcher.sink.dropSender }

/-- Go on with what a wait brought. -/
def resume (dispatcher : Dispatcher) : WaitResult → Dispatcher
  | .event event => { dispatcher with phase := .handling event }
  | .nothing => { dispatcher with phase := .checking }
  | .failed .sourceClosed => dispatcher.finish .sourceClosed
  | .failed error => dispatcher.finish (.sourceFailed error.message)
  | .panicked => dispatcher.finish (.sourceFailed "dispatcher thread panicked")

/-- Count an event and decide where it goes.  An event of neither kind is passed
over. -/
def handle (dispatcher : Dispatcher) (event : Event) : Dispatcher :=
  let stats := dispatcher.stats
  match event.notice?, event.measurement? with
  | some notice, _ =>
      { dispatcher with
        stats := { stats with systemEvents := stats.systemEvents + 1 }
        phase := .recording notice }
  | none, some (sensor, sample) =>
      { dispatcher with
        stats := { stats with received := stats.received + 1 }
        phase := .admitting sensor sample }
  | none, none => { dispatcher with phase := .checking }

def downSample (dispatcher : Dispatcher) (sensor : Handle) (sample : Sample) : Dispatcher :=
  let (index?, downSampler) := dispatcher.downSampler.accept sensor
  { dispatcher with
    downSampler := downSampler
    phase := match index? with
      | none => .suppressing
      | some index =>
          if dispatcher.attached then .delivering ⟨sensor, index, sample⟩ else .dropping }

/-- Send a sample.  If the consumer is gone, nothing will be sent again. -/
def deliver (dispatcher : Dispatcher) (sample : StreamedSample) : Dispatcher :=
  match dispatcher.sink.send sample with
  | .sent sink => { dispatcher with sink := sink, phase := .forwarding }
  | .full => { dispatcher with phase := .stalled sample }
  | .detached =>
      { dispatcher with
        sink := dispatcher.sink.dropSender
        attached := false
        phase := .dropping }

/-- Take a sample at the receiving end.  A channel that has no room at all hands over
the sample that the dispatcher is about to send. -/
def receive (dispatcher : Dispatcher) : Channel.Arrival × Dispatcher :=
  match dispatcher.sink.receive, dispatcher.sink.capacity, dispatcher.phase with
  | (.nothing, _), some 0, .delivering sample =>
      (.sample sample, { dispatcher with phase := .forwarding })
  | (arrival, sink), _, _ => (arrival, { dispatcher with sink := sink })

/-- A step that concerns neither the source nor the tracker. -/
def step (dispatcher : Dispatcher) : Dispatcher :=
  let stats := dispatcher.stats
  match dispatcher.phase with
  | .checking =>
      if dispatcher.stopRequested then dispatcher.finish .cancelled
      else { dispatcher with phase := .waiting }
  | .handling event => dispatcher.handle event
  | .admitting sensor sample => dispatcher.downSample sensor sample
  | .suppressing =>
      { dispatcher with
        stats := { stats with suppressed := stats.suppressed + 1 }
        phase := .checking }
  | .delivering sample => dispatcher.deliver sample
  | .stalled sample =>
      { dispatcher with
        phase := if dispatcher.stopRequested then .dropping else .delivering sample }
  | .forwarding =>
      { dispatcher with
        stats := { stats with forwarded := stats.forwarded + 1 }
        phase := .checking }
  | .dropping =>
      { dispatcher with
        stats := { stats with dropped := stats.dropped + 1 }
        phase := .checking }
  | .waiting => dispatcher
  | .recording _ => dispatcher
  | .ended _ => dispatcher

/-- The sample that is held back because the channel is full. -/
def held? (dispatcher : Dispatcher) : Option StreamedSample :=
  match dispatcher.phase with
  | .delivering sample =>
      if dispatcher.sink.receiverAlive && dispatcher.sink.isFull then some sample else none
  | .stalled sample =>
      if dispatcher.sink.receiverAlive && dispatcher.sink.isFull && !dispatcher.stopRequested then
        some sample
      else none
  | _ => none

end Dispatcher

namespace Phase

/-- The most steps that lie ahead once the dispatcher was asked to stop. -/
def distance : Phase → Nat
  | .ended _ => 0
  | .checking => 1
  | .recording _ => 2
  | .suppressing => 2
  | .forwarding => 2
  | .dropping => 2
  | .stalled _ => 3
  | .delivering _ => 4
  | .admitting _ _ => 5
  | .handling _ => 6
  | .waiting => 7

end Phase

theorem Dispatcher.distance_of_running {dispatcher : Dispatcher}
    (running : dispatcher.exit? = none) : dispatcher.phase.distance ≠ 0 := by
  rcases dispatcher with ⟨phase, _⟩
  cases phase <;> simp_all [Dispatcher.exit?, Phase.distance]

end SensorStream
