import SensorStream.Config
import SensorStream.Dispatch.Schedule

/-!
# The state of a client

A client takes one event source through discovery, connecting and streaming.
Where it is on this way is its state; every change of state is kept in a trail,
in order.  Between start and shutdown it has a dispatcher at work, and at the
other end of the dispatcher's channel it is the consumer.
-/

namespace SensorStream

/-- Where a client is on its way. -/
inductive ClientState where
  | idle
  | discovering
  | sensorFound
  | noSensorFound
  | connecting
  | connected
  | connectFailed
  | streaming
  | shuttingDown
  | terminated
  deriving DecidableEq, Repr

namespace ClientState

def name : ClientState → String
  | idle => "Idle"
  | discovering => "Discovering"
  | sensorFound => "SensorFound"
  | noSensorFound => "NoSensorFound"
  | connecting => "Connecting"
  | connected => "Connected"
  | connectFailed => "ConnectFailed"
  | streaming => "Streaming"
  | shuttingDown => "ShuttingDown"
  | terminated => "Terminated"

end ClientState

structure Transition where
  source : ClientState
  target : ClientState
  deriving DecidableEq, Repr

namespace Transition

def render (transition : Transition) : String :=
  transition.source.name ++ " -> " ++ transition.target.name

end Transition

/-- Why a client's call has no result: it failed, or the clock has no reading for
its deadline and the call breaks off. -/
inductive Mishap where
  | error (cause : ClientError)
  | deadlineOverflow
  deriving DecidableEq, Repr

namespace Mishap

def message : Mishap → String
  | error cause => cause.message
  | deadlineOverflow => "overflow when adding duration to instant"

end Mishap

structure Client (Source : Type) where
  config : Config
  config_sane : config.Sane
  state : ClientState
  trail : List Transition
  source : Source
  tracker : Tracker
  /-- The dispatcher, from start to shutdown. -/
  worker : Option Dispatcher
  /-- The sensors of the finished discovery cycle. -/
  sensors : List Descriptor
  /-- The sensor that is connected. -/
  connection : Option (Descriptor × Handle)
  /-- The counters that were read at shutdown. -/
  finalStats : Option DispatchStats
  /-- The number of choices that the schedule has made. -/
  tick : Nat

namespace Client

variable {Source : Type}

/-- A client that has not done anything.  Its settings are sanitized. -/
def new (config : Config) (source : Source) : Client Source where
  config := config.sanitized
  config_sane := config.sane_sanitized
  state := .idle
  trail := []
  source := source
  tracker := .fresh
  worker := none
  sensors := []
  connection := none
  finalStats := none
  tick := 0

/-- The dispatcher's counters: as they are while there is a dispatcher, and as
they were read at shutdown from then on. -/
def stats (client : Client Source) : DispatchStats :=
  match client.worker with
  | some dispatcher => dispatcher.stats
  | none => client.finalStats.getD .zero

def transition (client : Client Source) (target : ClientState) : Client Source :=
  { client with state := target, trail := client.trail ++ [⟨client.state, target⟩] }

/-- A call is made in a state that does not accept it. -/
def wrongState (client : Client Source) : ClientError :=
  .wrongState client.state.name

/-- The dispatcher at work with the client's source and tracker. -/
def scene? (client : Client Source) : Option (Scene Source) :=
  client.worker.map fun dispatcher => ⟨⟨client.source, client.tracker, dispatcher⟩, client.tick⟩

/-- What the dispatcher's work has made of the client's source and tracker. -/
def absorb (client : Client Source) (scene : Scene Source) : Client Source :=
  { client with
    source := scene.pipeline.source
    tracker := scene.pipeline.tracker
    worker := some scene.pipeline.dispatcher
    tick := scene.tick }

def settle [EventSource Source] (client : Client Source) : Client Source :=
  match client.scene? with
  | none => client
  | some scene => client.absorb (scene.update Pipeline.settle)

/-- How the dispatcher stands, if there is one and it can do nothing. -/
def standing? [EventSource Source] (client : Client Source) : Option Standing :=
  client.scene?.bind fun scene => scene.pipeline.standing?

def updateSource (client : Client Source) (change : Source → Source) : Client Source :=
  { client with source := change client.source }

@[simp] theorem state_transition (client : Client Source) (target : ClientState) :
    (client.transition target).state = target := rfl

@[simp] theorem trail_transition (client : Client Source) (target : ClientState) :
    (client.transition target).trail = client.trail ++ [⟨client.state, target⟩] := rfl

@[simp] theorem state_absorb (client : Client Source) (scene : Scene Source) :
    (client.absorb scene).state = client.state := rfl

@[simp] theorem trail_absorb (client : Client Source) (scene : Scene Source) :
    (client.absorb scene).trail = client.trail := rfl

end Client

end SensorStream
