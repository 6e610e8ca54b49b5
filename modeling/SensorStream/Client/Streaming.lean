import SensorStream.Client.State
import SensorStream.Connector

/-!
# Connecting and streaming

After discovery a client connects to one of the sensors, with retries, and then
takes samples: all that arrive within a window, or one at a time.
-/

namespace SensorStream

namespace Scene

variable {Source : Type} [EventSource Source]

/-- How a client gets at its source to connect to a sensor: the dispatcher goes
on working meanwhile. -/
def approach (schedule : Schedule Source) (sensor : Descriptor) : Approach (Scene Source) where
  acquire scene :=
    let scene := scene.between schedule
    let (result, source) := EventSource.acquire sensor scene.pipeline.source
    (result, scene.update fun pipeline => { pipeline with source := source })
  pause span scene := scene.sleep schedule span.nanoseconds

end Scene

namespace Client

variable {Source : Type} [EventSource Source]

def connector (client : Client Source) : Connector :=
  .limitedTo client.config.connectAttempts.toNat client.config.retryDelay

def attemptConnection (schedule : Schedule Source) (sensor : Descriptor)
    (client : Client Source) : Attempts × Client Source :=
  match client.scene? with
  | none =>
      let approach : Approach Source := ⟨EventSource.acquire sensor, fun _ source => source⟩
      let (attempts, source) := client.connector.connect approach client.source
      (attempts, { client with source := source })
  | some scene =>
      let (attempts, scene) :=
        client.connector.connect (Scene.approach schedule sensor) scene
      (attempts, client.absorb scene)

/-- Connect to the sensor with this number in the list of sensors. -/
def connect (schedule : Schedule Source) (client : Client Source) (index : Nat) :
    Except ClientError Handle × Client Source :=
  if client.state ≠ .sensorFound then (.error client.wrongState, client)
  else match client.sensors[index]? with
    | none => (.error (.wrongState "SensorFound (no such sensor index)"), client)
    | some sensor =>
        let (attempts, client) :=
          (client.transition .connecting).attemptConnection schedule sensor
        match attempts.result with
        | .ok handle =>
            (.ok handle, { client with connection := some (sensor, handle) }.transition .connected)
        | .error last =>
            (.error (.connectFailed client.connector.maxAttempts last),
              client.transition .connectFailed)

/-- Observe the samples of the configured window. -/
def stream (schedule : Schedule Source) (client : Client Source) :
    Except Mishap Observation × Client Source :=
  if client.state ≠ .connected then (.error (.error client.wrongState), client)
  else
    let client := client.transition .streaming
    match client.scene? with
    | none => (.error (.error .streamStopped), client)
    | some scene =>
        if !deadlineFits (schedule.clock scene.tick) client.config.streamWindow then
          (.error .deadlineOverflow, client)
        else
          let (observation, scene) :=
            (Scene.surroundings schedule).observe client.config.streamWindow scene
          (.ok observation, client.absorb scene)

/-- Take one sample, waiting for it at most a span of time. -/
def nextSample (schedule : Schedule Source) (client : Client Source) (timeout : Span) :
    Except ClientError StreamedSample × Client Source :=
  if client.state ≠ .connected ∧ client.state ≠ .streaming then (.error client.wrongState, client)
  else
    let client := if client.state = .connected then client.transition .streaming else client
    match client.scene? with
    | none => (.error .streamStopped, client)
    | some scene =>
        let reception := (Scene.surroundings schedule).receiveWithin timeout.nanoseconds scene
        (reception.arrival.toExcept, client.absorb reception.world)

end Client

end SensorStream
