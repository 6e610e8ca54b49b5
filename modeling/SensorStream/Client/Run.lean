import SensorStream.Client.Discovery
import SensorStream.Client.Streaming

/-!
# Shutting down, and whole runs

Shutting down asks the dispatcher to stop, shuts the source down, gives up the
consumer's end of the channel, reads the counters and waits for the dispatcher's
end, in this order; the dispatcher may act between any two of these actions.

A run discovers, connects to the first sensor, streams for the configured window
and shuts down.  It shuts down on every path, also when it fails.
-/

namespace SensorStream

namespace Scene

variable {Source : Type} [EventSource Source]

/-- Stop a dispatcher and its source.  The result is the dispatcher's exit and the
counters as they were read before the dispatcher's end was awaited. -/
def stop (schedule : Schedule Source) (scene : Scene Source) :
    DispatchExit × DispatchStats × Scene Source :=
  let scene := scene.update fun pipeline => pipeline.updateDispatcher Dispatcher.requestStop
  let scene := scene.between schedule
  let scene := scene.update fun pipeline => pipeline.updateSource EventSource.shutdown
  let scene := scene.between schedule
  let scene := scene.update fun pipeline =>
    pipeline.updateDispatcher fun dispatcher =>
      { dispatcher with sink := dispatcher.sink.dropReceiver }
  let scene := scene.between schedule
  let stats := scene.pipeline.dispatcher.stats
  let scene := scene.between schedule
  let (exit, pipeline) := scene.pipeline.join
  (exit, stats, { scene with pipeline := pipeline })

end Scene

namespace Client

variable {Source : Type} [EventSource Source]

/-- Stop the dispatcher and give up the source, wherever the client is.  The result
is how the dispatcher ended, if there was one. -/
def shutdown (schedule : Schedule Source) (client : Client Source) :
    Option DispatchExit × Client Source :=
  if client.state = .terminated then (none, client)
  else
    let client := client.transition .shuttingDown
    match client.scene? with
    | none => (none, (client.updateSource EventSource.shutdown).transition .terminated)
    | some scene =>
        let (exit, stats, scene) := scene.stop schedule
        let client := { client.absorb scene with worker := none, finalStats := some stats }
        (some exit, client.transition .terminated)

def drop (schedule : Schedule Source) (client : Client Source) : Client Source :=
  (client.shutdown schedule).2

end Client

structure RunReport where
  sensor : Descriptor
  handle : Handle
  observation : Observation
  dispatcher : DispatchStats
  exit : Option DispatchExit
  deriving Repr

namespace Client

variable {Source : Type} [EventSource Source]

/-- The last part of a run, after connecting. -/
def streamToEnd (schedule : Schedule Source) (client : Client Source) (handle : Handle) :
    Except Mishap RunReport × Client Source :=
  match client.stream schedule with
  | (.error mishap, client) => (.error mishap, client.drop schedule)
  | (.ok observation, client) =>
      let (exit, client) := client.shutdown schedule
      match client.connection with
      | none => (.error (.error (.wrongState "Terminated (no connection)")), client)
      | some (sensor, _) => (.ok ⟨sensor, handle, observation, client.stats, exit⟩, client)

/-- Discover, connect to the first sensor, stream and shut down. -/
def run (schedule : Schedule Source) (config : Config) (source : Source) :
    Except Mishap RunReport × Client Source :=
  match (Client.new config source).start schedule with
  | (.error error, client) => (.error (.error error), client.drop schedule)
  | (.ok (), client) =>
      match client.awaitDiscovery schedule with
      | (.error mishap, client) => (.error mishap, client.drop schedule)
      | (.ok _, client) =>
          match client.connect schedule 0 with
          | (.error error, client) => (.error (.error error), client.drop schedule)
          | (.ok handle, client) => client.streamToEnd schedule handle

end Client

end SensorStream
