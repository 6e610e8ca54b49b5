/-!
# Time that passes

Somebody who waits has a budget of time, in nanoseconds.  Either something
happens before the budget is used up, and a smaller budget is left, or nothing
happens.  Because the budget only shrinks, waiting comes to an end.
-/

namespace SensorStream

/-- The world after something happened within a budget of time. -/
structure Elapsed (budget : Nat) (World : Type) where
  left : Nat
  left_lt : left < budget
  world : World

namespace Elapsed

/-- Look at the world through a function. -/
def map {budget : Nat} {World Image : Type} (image : World → Image)
    (elapsed : Elapsed budget World) : Elapsed budget Image :=
  ⟨elapsed.left, elapsed.left_lt, image elapsed.world⟩

/-- Something that takes one unit of a budget. -/
theorem pred_lt {budget : Nat} (positive : 0 < budget) : budget - 1 < budget :=
  Nat.sub_one_lt_of_lt positive

end Elapsed

end SensorStream
