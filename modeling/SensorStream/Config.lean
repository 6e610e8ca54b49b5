import SensorStream.Environment
import SensorStream.Transport

/-!
# Settings of a client

All settings have defaults and can be replaced one by one.  Four of them must
not be zero; `sanitized` raises these to the least value that makes sense, and
`Sane` says that they are raised.

Settings are read from environment variables, each from its own.  A variable
that is absent, is no UTF-8 text, or holds anything but a numeral leaves the
default in place.
-/

namespace SensorStream

structure Config where
  /-- How often a connection is tried. -/
  connectAttempts : UInt32
  retryDelay : Span
  /-- How often the caller looks whether discovery is complete. -/
  discoveryPoll : Span
  discoveryTimeout : Span
  /-- How long a stream is observed. -/
  streamWindow : Span
  /-- Every so many measurements of a sensor one is left out; zero leaves out
  none. -/
  downsampleEvery : UInt64
  /-- The longest single wait of the dispatcher. -/
  waitTimeout : Span
  /-- How many samples may wait for the consumer. -/
  sampleBuffer : Nat
  interfaces : TransportSet
  deriving DecidableEq, Repr

namespace Config

def default : Config where
  connectAttempts := 3
  retryDelay := .zero
  discoveryPoll := .ofSeconds 1
  discoveryTimeout := .ofSeconds 30
  streamWindow := .ofSeconds 5
  downsampleEvery := 100
  waitTimeout := .ofMilliseconds 100
  sampleBuffer := 256
  interfaces := .hardware

/-- Raise the settings that must not be zero. -/
def sanitized (config : Config) : Config :=
  { config with
    connectAttempts := if config.connectAttempts = 0 then 1 else config.connectAttempts
    sampleBuffer := max config.sampleBuffer 1
    discoveryPoll := config.discoveryPoll.orIfZero (.ofMilliseconds 1)
    waitTimeout := config.waitTimeout.orIfZero (.ofMilliseconds 1) }

/-- No setting is zero that must not be. -/
structure Sane (config : Config) : Prop where
  attempts : config.connectAttempts ≠ 0
  buffer : 0 < config.sampleBuffer
  poll : 0 < config.discoveryPoll.nanoseconds
  wait : 0 < config.waitTimeout.nanoseconds

theorem orIfZero_positive (span : Span) :
    0 < (span.orIfZero (.ofMilliseconds 1)).nanoseconds := by
  unfold Span.orIfZero Span.isZero
  split
  · decide
  · rename_i nonzero
    simp only [beq_iff_eq] at nonzero
    omega

theorem sane_sanitized (config : Config) : config.sanitized.Sane where
  attempts := by
    simp only [sanitized]
    split
    · decide
    · assumption
  buffer := by simp only [sanitized]; omega
  poll := orIfZero_positive _
  wait := orIfZero_positive _

/-! ## Reading the environment -/

def variableNames : List String :=
  ["ZEN_CONNECT_ATTEMPTS", "ZEN_RETRY_DELAY_MS", "ZEN_POLL_MS", "ZEN_DISCOVERY_TIMEOUT_MS",
    "ZEN_STREAM_SECS", "ZEN_DOWNSAMPLE", "ZEN_INTERFACES"]

/-- The number of connection attempts; a count beyond 32 bits is no count. -/
def attemptsOf (environment : Environment) : UInt32 :=
  match environment.count? "ZEN_CONNECT_ATTEMPTS" with
  | some count =>
      if count.toNat < UInt32.size then count.toUInt32 else default.connectAttempts
  | none => default.connectAttempts

/-- The transports to use; a list that names none leaves the default. -/
def interfacesOf (environment : Environment) : TransportSet :=
  ((environment.text? "ZEN_INTERFACES").bind TransportSet.ofKeys?).getD default.interfaces

/-- Read the settings from the environment. -/
def ofEnvironment (environment : Environment) : Config :=
  sanitized
    { default with
      connectAttempts := attemptsOf environment
      retryDelay := environment.milliseconds "ZEN_RETRY_DELAY_MS" default.retryDelay
      discoveryPoll := environment.milliseconds "ZEN_POLL_MS" default.discoveryPoll
      discoveryTimeout :=
        environment.milliseconds "ZEN_DISCOVERY_TIMEOUT_MS" default.discoveryTimeout
      streamWindow := environment.seconds "ZEN_STREAM_SECS" default.streamWindow
      downsampleEvery := (environment.count? "ZEN_DOWNSAMPLE").getD default.downsampleEvery
      interfaces := interfacesOf environment }

end Config

end SensorStream
