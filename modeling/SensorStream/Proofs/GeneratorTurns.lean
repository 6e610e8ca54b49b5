import Mathlib.Logic.Relation
import SensorStream.Device.Simulated
import SensorStream.Proofs.PublishedMeasurements

/-!
# A generator at work, step by step

A generator works beside those who use the queue.  In each round it looks whether it was asked to
stop, weighs whether it has reached its limit, publishes its next measurement by a call like those
of all others, and pauses.

Whoever opened the link puts it into a store.  Any number of calls come to give it up, and one of
them finds it there: it takes the link out, asks the generator to stop and waits for its end.

`Broadcast.OwnStep` and `Broadcast.OtherStep` list the steps.  A round that nobody interrupts does
what `Generator.publishNext` says.
-/

namespace SensorStream

/-- Where a generator is in its round. -/
inductive Round where
  /-- It is going to look whether it was asked to stop. -/
  | looking
  /-- It is going to see whether it has reached its limit. -/
  | weighing
  /-- The call with this number publishes its measurement. -/
  | publishing (number : Nat)
  | pausing
  | ended

/-- Where the link is kept. -/
inductive Keeping where
  | unstored
  | stored
  /-- It was taken out of the store to be given up. -/
  | removed

/-- How far a call to give the link up has got. -/
inductive Parting where
  /-- It is going to look for the link in the store. -/
  | seeking
  /-- It has taken the link out, and is going to ask the generator to stop. -/
  | stopping
  /-- It waits for the generator to end. -/
  | joining
  /-- It is over, and has given the link up or has not found it. -/
  | returned (gaveUp : Bool)

namespace Generator

/-- The generator has published a measurement, and pauses before the next one. -/
def pause (generator : Generator) : Generator :=
  { generator with
    frame := generator.frame + 1
    due := max generator.period.nanoseconds shortestPause }

end Generator

/-- A generator at work, with the calls on the queue that it publishes into, the numbers of its own
calls among them in the order in which it made them, and those who give the link up. -/
structure Broadcast where
  traffic : Traffic
  generator : Generator
  stage : Round
  own : List Nat
  stopRequested : Bool
  keeping : Keeping
  partings : List Parting

namespace Broadcast

/-- The link was opened, at a time when others had used the queue already. -/
def opened (traffic : Traffic) (generator : Generator) : Broadcast :=
  ⟨traffic, generator, .looking, [], false, .unstored, []⟩

/-- The generator is at another stage of its round. -/
def goTo (broadcast : Broadcast) (stage : Round) : Broadcast :=
  { broadcast with stage := stage }

/-- A call has begun or has taken a step on the queue. -/
def withTraffic (broadcast : Broadcast) (traffic : Traffic) : Broadcast :=
  { broadcast with traffic := traffic }

/-- The generator begins a call that publishes its next measurement. -/
def call (broadcast : Broadcast) : Broadcast :=
  { broadcast with
    traffic := broadcast.traffic.begin (.publish broadcast.generator.nextEvent .looking)
    stage := .publishing broadcast.traffic.calls.length
    own := broadcast.own ++ [broadcast.traffic.calls.length] }

/-- The generator has published a measurement. -/
def pause (broadcast : Broadcast) : Broadcast :=
  { broadcast with generator := broadcast.generator.pause, stage := .pausing }

/-- The generator ends. -/
def finish (broadcast : Broadcast) : Broadcast :=
  { broadcast with generator := broadcast.generator.stop, stage := .ended }

/-- The call with this number to give the link up has got so far. -/
def part (broadcast : Broadcast) (caller : Nat) (stage : Parting) : Broadcast :=
  { broadcast with partings := broadcast.partings.set caller stage }

/-- One step of the generator. -/
inductive OwnStep (broadcast : Broadcast) : Broadcast → Prop where
  | look (looking : broadcast.stage = .looking) (unasked : broadcast.stopRequested = false) :
      OwnStep broadcast (broadcast.goTo .weighing)
  | obey (looking : broadcast.stage = .looking) (asked : broadcast.stopRequested = true) :
      OwnStep broadcast broadcast.finish
  | exhaust (weighing : broadcast.stage = .weighing)
      (exhausted : broadcast.generator.exhausted = true) : OwnStep broadcast broadcast.finish
  | call (weighing : broadcast.stage = .weighing)
      (unexhausted : broadcast.generator.exhausted = false) : OwnStep broadcast broadcast.call
  | publish {number : Nat} {call next : QueueCall} {queue : EventQueue} {puts takes : List Event}
      (publishing : broadcast.stage = .publishing number)
      (calling : broadcast.traffic.calls[number]? = some call)
      (step : call.Step broadcast.traffic.queue queue next puts takes) :
      OwnStep broadcast
        (broadcast.withTraffic (broadcast.traffic.act number queue next puts takes))
  | goOn {number : Nat} (publishing : broadcast.stage = .publishing number)
      (accepted : broadcast.traffic.told? number = some true) : OwnStep broadcast broadcast.pause
  | giveUp {number : Nat} (publishing : broadcast.stage = .publishing number)
      (refused : broadcast.traffic.told? number = some false) : OwnStep broadcast broadcast.finish
  | wake (pausing : broadcast.stage = .pausing) : OwnStep broadcast (broadcast.goTo .looking)

/-- One step of the others: of those who use the queue, of the one who has opened the link, or of
those who give it up. -/
inductive OtherStep (broadcast : Broadcast) : Broadcast → Prop where
  | begin {call : QueueCall} (fresh : call.isFresh = true) :
      OtherStep broadcast (broadcast.withTraffic (broadcast.traffic.begin call))
  | act {caller : Nat} {call next : QueueCall} {queue : EventQueue} {puts takes : List Event}
      (other : caller ∉ broadcast.own) (calling : broadcast.traffic.calls[caller]? = some call)
      (step : call.Step broadcast.traffic.queue queue next puts takes) :
      OtherStep broadcast
        (broadcast.withTraffic (broadcast.traffic.act caller queue next puts takes))
  | store (unstored : broadcast.keeping = .unstored) :
      OtherStep broadcast { broadcast with keeping := .stored }
  | come : OtherStep broadcast { broadcast with partings := broadcast.partings ++ [.seeking] }
  | take {caller : Nat} (seeking : broadcast.partings[caller]? = some .seeking)
      (stored : broadcast.keeping = .stored) :
      OtherStep broadcast { broadcast.part caller .stopping with keeping := .removed }
  | miss {caller : Nat} (seeking : broadcast.partings[caller]? = some .seeking)
      (missing : broadcast.keeping ≠ .stored) :
      OtherStep broadcast (broadcast.part caller (.returned false))
  | stop {caller : Nat} (stopping : broadcast.partings[caller]? = some .stopping) :
      OtherStep broadcast { broadcast.part caller .joining with stopRequested := true }
  | join {caller : Nat} (joining : broadcast.partings[caller]? = some .joining)
      (ended : broadcast.stage = .ended) :
      OtherStep broadcast (broadcast.part caller (.returned true))

/-- What may come of this, when the steps of all come in any order.  The number counts the steps of
the generator. -/
inductive Leads (first : Broadcast) : Nat → Broadcast → Prop where
  | here : Leads first 0 first
  | own {steps : Nat} {middle later : Broadcast} (before : Leads first steps middle)
      (step : middle.OwnStep later) : Leads first (steps + 1) later
  | other {steps : Nat} {middle later : Broadcast} (before : Leads first steps middle)
      (step : middle.OtherStep later) : Leads first steps later

/-! ## A round that nobody interrupts -/

/-- The generator takes its steps one after the other. -/
def Turns : Broadcast → Broadcast → Prop :=
  Relation.ReflTransGen OwnStep

/-- The call of the generator runs while the generator is publishing. -/
theorem turns_of_runs (broadcast : Broadcast) {number : Nat} {call next : QueueCall}
    {queue : EventQueue} {puts takes : List Event}
    (publishing : broadcast.stage = .publishing number)
    (calling : broadcast.traffic.calls[number]? = some call)
    (runs : QueueCall.Runs broadcast.traffic.queue call queue next puts takes) :
    ∃ traffic : Traffic, broadcast.Turns (broadcast.withTraffic traffic) ∧
      traffic.queue = queue ∧ traffic.calls[number]? = some next := by
  induction runs with
  | here => exact ⟨broadcast.traffic, .refl, rfl, calling⟩
  | next _ step ih =>
      rcases ih with ⟨traffic, turns, rfl, between⟩
      exact ⟨_, turns.tail (.publish publishing between step), rfl,
        Traffic.getElem?_act_self between⟩

/-- A round comes to what `publishNext` says. -/
theorem turns_publishNext (broadcast : Broadcast) (looking : broadcast.stage = .looking)
    (unasked : broadcast.stopRequested = false) (running : broadcast.generator.running = true) :
    ∃ later : Broadcast, broadcast.Turns later ∧
      (later.stage = .pausing ∨ later.stage = .ended) ∧
        (later.generator, later.traffic.queue) =
          broadcast.generator.publishNext broadcast.traffic.queue := by
  have weighing : broadcast.Turns (broadcast.goTo .weighing) := .single (.look looking unasked)
  have unstopped : ¬(!broadcast.generator.running) = true := by simp [running]
  rw [Generator.publishNext, if_neg unstopped]
  cases exhausted : broadcast.generator.exhausted with
  | true => exact ⟨_, weighing.tail (.exhaust rfl exhausted), .inr rfl, rfl⟩
  | false =>
      have called := weighing.tail (.call rfl exhausted)
      have calling : (broadcast.goTo .weighing).call.traffic.calls[
          broadcast.traffic.calls.length]? =
            some (.publish broadcast.generator.nextEvent .looking) := List.getElem?_concat_length
      simp only [Bool.false_eq_true, if_false]
      have runs := QueueCall.Runs.of_publish broadcast.traffic.queue broadcast.generator.nextEvent
      cases published : broadcast.traffic.queue.publish broadcast.generator.nextEvent with
      | mk publication queue =>
          rw [published] at runs
          rcases runs with ⟨rfl, _⟩ | ⟨met, puts, runs⟩
          · exact Bool.noConfusion (EventQueue.isSystem_of_publish_held published)
          rcases (broadcast.goTo .weighing).call.turns_of_runs rfl calling runs with
            ⟨traffic, turns, rfl, answered⟩
          have told : traffic.told? broadcast.traffic.calls.length = publication.accepted? :=
            congrArg (Option.bind · QueueCall.told?) answered
          have publishing := called.trans turns
          cases publication with
          | refused => exact ⟨_, publishing.tail (.giveUp rfl told), .inr rfl, rfl⟩
          | held => exact Bool.noConfusion (EventQueue.isSystem_of_publish_held published)
          | _ =>
              refine ⟨_, publishing.tail (.goOn rfl told), .inl rfl, ?_⟩
              rw [if_neg EventQueue.Publication.noConfusion]
              rfl

end Broadcast

end SensorStream
