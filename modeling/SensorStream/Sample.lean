import SensorStream.Numeric.FixedPlaces
import SensorStream.Sensor

/-!
# Measurements

One measurement of an inertial sensor, and the same measurement on its way to a
consumer, with the sensor it came from and its running index.  The last part
shows a measurement as text.
-/

namespace SensorStream

/-- A quantity along three axes. -/
structure Axes where
  x : Float
  y : Float
  z : Float
  deriving Repr

namespace Axes

def zero : Axes :=
  ⟨0, 0, 0⟩

end Axes

structure Quaternion where
  w : Float
  x : Float
  y : Float
  z : Float
  deriving Repr

namespace Quaternion

def zero : Quaternion :=
  ⟨0, 0, 0, 0⟩

end Quaternion

/-- One measurement: acceleration in g, angular velocity in degrees per second,
roll, pitch and yaw in degrees, the orientation, the time of measuring in
seconds and the sensor's own frame counter. -/
structure Sample where
  acceleration : Axes
  angularVelocity : Axes
  euler : Axes
  orientation : Quaternion
  seconds : Float
  frame : UInt32
  deriving Repr

namespace Sample

def zero : Sample :=
  ⟨.zero, .zero, .zero, .zero, 0, 0⟩

end Sample

/-- A measurement that passed down-sampling.  The index counts the measurements
of its sensor from 1, those that were left out included. -/
structure StreamedSample where
  sensor : Handle
  index : UInt64
  sample : Sample
  deriving Repr

namespace StreamedSample

/-- Four places with an explicit sign. -/
def fine : Numeric.FixedPlaces :=
  ⟨4, true⟩

/-- Angles show three places. -/
def coarse : Numeric.FixedPlaces :=
  ⟨3, true⟩

/-- Three components, one blank between them. -/
def renderAxes (format : Numeric.FixedPlaces) (axes : Axes) : String :=
  format.render axes.x ++ " " ++ format.render axes.y ++ " " ++ format.render axes.z

def render (streamed : StreamedSample) : String :=
  let sample := streamed.sample
  "Sensor data from " ++ streamed.sensor.label
    ++ " (sample " ++ toString streamed.index.toNat ++ ")"
    ++ "\n -> Acceleration a = " ++ renderAxes fine sample.acceleration
    ++ "\n -> Angular velocity g = " ++ renderAxes fine sample.angularVelocity
    ++ "\n -> Euler angles r = " ++ renderAxes coarse sample.euler
    ++ "\n -> Quaternion w = " ++ fine.render sample.orientation.w
    ++ " x " ++ fine.render sample.orientation.x
    ++ " y " ++ fine.render sample.orientation.y
    ++ " z " ++ fine.render sample.orientation.z

end StreamedSample

end SensorStream
