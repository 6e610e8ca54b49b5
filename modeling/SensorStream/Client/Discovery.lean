import SensorStream.Client.State

/-!
# Discovering sensors

A client starts a dispatcher and a discovery cycle, and then looks at regular
intervals whether the cycle is complete.  Each look reads the tracker first,
then whether the dispatcher is still running, then the time; the dispatcher may
act between any two of these readings.
-/

namespace SensorStream

/-- How the wait for discovery ended. -/
inductive DiscoveryOutcome where
  | complete (sensors : List Descriptor)
  /-- The dispatcher was found at its end. -/
  | dispatcherEnded
  | timedOut
  deriving Repr

namespace Scene

variable {Source : Type} [EventSource Source]

/-- Look every `poll` nanoseconds, for at most `remaining` nanoseconds, whether
discovery is complete. -/
def watchDiscovery (schedule : Schedule Source) (poll : Nat) (poll_pos : 0 < poll)
    (remaining : Nat) (scene : Scene Source) : DiscoveryOutcome × Scene Source :=
  let scene := scene.between schedule
  match scene.pipeline.tracker.sensors? with
  | some sensors => (.complete sensors, scene)
  | none =>
      let scene := scene.between schedule
      if !scene.pipeline.dispatcher.isRunning then (.dispatcherEnded, scene)
      else if _ : remaining = 0 then (.timedOut, scene)
      else
        let nap := min poll remaining
        watchDiscovery schedule poll poll_pos (remaining - nap) (scene.sleep schedule nap)
termination_by remaining
decreasing_by omega

end Scene

namespace Client

variable {Source : Type} [EventSource Source]

/-- The dispatcher that a start employs. -/
def freshWorker (client : Client Source) : Dispatcher :=
  .spawn client.config.downsampleEvery (.withCapacity (some client.config.sampleBuffer))

/-- A dispatcher that an earlier, failed start has left behind, and beside it the one that a
start employs. -/
def succession (client : Client Source) (earlier : Dispatcher) : Succession Source :=
  ⟨client.source, client.tracker, earlier, client.freshWorker⟩

/-- Employ a dispatcher.  It takes the place of one that was left behind. -/
def employWorker (schedule : Schedule Source) (client : Client Source) : Client Source :=
  match client.worker with
  | none => { client with worker := some client.freshWorker }
  | some earlier =>
      client.absorb
        ⟨(schedule.replace client.tick (client.succession earlier)).laterSide, client.tick + 2⟩

/-- Let happen what happens between two actions of the caller. -/
def between (schedule : Schedule Source) (client : Client Source) : Client Source :=
  match client.scene? with
  | none => client
  | some scene => client.absorb (scene.between schedule)

/-- Start the dispatcher and a discovery cycle. -/
def start (schedule : Schedule Source) (client : Client Source) :
    Except ClientError Unit × Client Source :=
  if client.state ≠ .idle then (.error client.wrongState, client)
  else
    let client := (client.employWorker schedule).between schedule
    let (result, source) := EventSource.list client.source
    let client := { client with source := source }
    match result with
    | .error error => (.error error, client)
    | .ok () => (.ok (), client.transition .discovering)

/-- Conclude discovery with the sensors of the complete cycle. -/
def concludeDiscovery (client : Client Source) (sensors : List Descriptor) :
    Except Mishap (List Descriptor) × Client Source :=
  let client := { client with sensors := sensors }
  if sensors.isEmpty then (.error (.error .noSensorFound), client.transition .noSensorFound)
  else (.ok sensors, client.transition .sensorFound)

/-- The error of a discovery whose dispatcher was found at its end. -/
def dispatcherEndedError : ClientError :=
  .sourceFailed "event dispatcher stopped during discovery"

/-- Wait until the discovery cycle is complete. -/
def awaitDiscovery (schedule : Schedule Source) (client : Client Source) :
    Except Mishap (List Descriptor) × Client Source :=
  if client.state ≠ .discovering then (.error (.error client.wrongState), client)
  else if !deadlineFits (schedule.clock client.tick) client.config.discoveryTimeout then
    (.error .deadlineOverflow, client)
  else match client.scene? with
    | none =>
        match client.tracker.sensors? with
        | some sensors => client.concludeDiscovery sensors
        | none => (.error (.error dispatcherEndedError), client)
    | some scene =>
        let (outcome, scene) :=
          scene.watchDiscovery schedule client.config.discoveryPoll.nanoseconds
            client.config_sane.poll client.config.discoveryTimeout.nanoseconds
        let client := client.absorb scene
        match outcome with
        | .complete sensors => client.concludeDiscovery sensors
        | .dispatcherEnded => (.error (.error dispatcherEndedError), client)
        | .timedOut => (.error (.error .discoveryTimeout), client)

end Client

end SensorStream
