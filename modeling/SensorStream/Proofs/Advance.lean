import SensorStream.Dispatch.Pipeline
import SensorStream.Proofs.DownSampling

/-!
# What one step of a dispatcher can do

`Pipeline.Advance` lists the possible steps of a dispatcher between its source and
its tracker, each with what has to be the case for it and with all that it changes.
Every property that the steps keep is proved by a case analysis over this list, so
the step function is taken apart only once, in `Pipeline.advance_step`.
-/

namespace SensorStream

namespace Pipeline

variable {Source : Type} [EventSource Source]

/-- One step, from a pipeline to another. -/
inductive Advance (pipeline : Pipeline Source) : Pipeline Source → Prop where
  /-- It was asked to stop and comes to its end. -/
  | cancel (phase : pipeline.dispatcher.phase = .checking)
      (requested : pipeline.dispatcher.stopRequested = true) :
      Advance pipeline { pipeline with dispatcher := pipeline.dispatcher.finish .cancelled }
  /-- It was not asked to stop and turns to the source. -/
  | goOn (phase : pipeline.dispatcher.phase = .checking)
      (unrequested : pipeline.dispatcher.stopRequested = false) :
      Advance pipeline
        { pipeline with dispatcher := { pipeline.dispatcher with phase := .waiting } }
  /-- It waits for the source and takes what the wait brings. -/
  | wait (phase : pipeline.dispatcher.phase = .waiting) :
      Advance pipeline
        { pipeline with
          source := (EventSource.wait pipeline.source).2
          dispatcher := pipeline.dispatcher.resume (EventSource.wait pipeline.source).1 }
  /-- It counts a discovery event. -/
  | countNotice {event : Event} {notice : Notice}
      (phase : pipeline.dispatcher.phase = .handling event)
      (carried : event.notice? = some notice) :
      Advance pipeline
        { pipeline with
          dispatcher :=
            { pipeline.dispatcher with
              phase := .recording notice
              stats :=
                { pipeline.dispatcher.stats with
                  systemEvents := pipeline.dispatcher.stats.systemEvents + 1 } } }
  /-- It counts a measurement that came. -/
  | countMeasurement {event : Event} {sensor : Handle} {sample : Sample}
      (phase : pipeline.dispatcher.phase = .handling event)
      (noNotice : event.notice? = none)
      (carried : event.measurement? = some (sensor, sample)) :
      Advance pipeline
        { pipeline with
          dispatcher :=
            { pipeline.dispatcher with
              phase := .admitting sensor sample
              stats :=
                { pipeline.dispatcher.stats with
                  received := pipeline.dispatcher.stats.received + 1 } } }
  /-- It passes over an event that is neither. -/
  | passOver {event : Event} (phase : pipeline.dispatcher.phase = .handling event)
      (noNotice : event.notice? = none) (noMeasurement : event.measurement? = none) :
      Advance pipeline
        { pipeline with dispatcher := { pipeline.dispatcher with phase := .checking } }
  /-- It hands a discovery event to the tracker. -/
  | record {notice : Notice} (phase : pipeline.dispatcher.phase = .recording notice) :
      Advance pipeline
        { pipeline with
          tracker := pipeline.tracker.record notice
          dispatcher := { pipeline.dispatcher with phase := .checking } }
  /-- Down-sampling leaves a measurement out. -/
  | suppress {sensor : Handle} {sample : Sample}
      (phase : pipeline.dispatcher.phase = .admitting sensor sample)
      (leftOut : pipeline.dispatcher.downSampler.pass (sensor, sample) = none) :
      Advance pipeline
        { pipeline with
          dispatcher :=
            { pipeline.dispatcher with
              phase := .suppressing
              downSampler := pipeline.dispatcher.downSampler.after [(sensor, sample)] } }
  /-- Down-sampling lets a measurement through, to be sent. -/
  | letThrough {sensor : Handle} {sample : Sample} {streamed : StreamedSample}
      (phase : pipeline.dispatcher.phase = .admitting sensor sample)
      (passes : pipeline.dispatcher.downSampler.pass (sensor, sample) = some streamed)
      (attached : pipeline.dispatcher.attached = true) :
      Advance pipeline
        { pipeline with
          dispatcher :=
            { pipeline.dispatcher with
              phase := .delivering streamed
              downSampler := pipeline.dispatcher.downSampler.after [(sensor, sample)] } }
  /-- Down-sampling lets a measurement through, but there is nobody to send it to. -/
  | lose {sensor : Handle} {sample : Sample} {streamed : StreamedSample}
      (phase : pipeline.dispatcher.phase = .admitting sensor sample)
      (passes : pipeline.dispatcher.downSampler.pass (sensor, sample) = some streamed)
      (unattached : pipeline.dispatcher.attached = false) :
      Advance pipeline
        { pipeline with
          dispatcher :=
            { pipeline.dispatcher with
              phase := .dropping
              downSampler := pipeline.dispatcher.downSampler.after [(sensor, sample)] } }
  /-- It puts a sample into the channel. -/
  | send {sample : StreamedSample} (phase : pipeline.dispatcher.phase = .delivering sample)
      (received : pipeline.dispatcher.sink.receiverAlive = true)
      (room : pipeline.dispatcher.sink.isFull = false) :
      Advance pipeline
        { pipeline with
          dispatcher :=
            { pipeline.dispatcher with
              phase := .forwarding
              sink :=
                { pipeline.dispatcher.sink with
                  pending := pipeline.dispatcher.sink.pending ++ [sample] } } }
  /-- It finds the channel full. -/
  | stall {sample : StreamedSample} (phase : pipeline.dispatcher.phase = .delivering sample)
      (received : pipeline.dispatcher.sink.receiverAlive = true)
      (full : pipeline.dispatcher.sink.isFull = true) :
      Advance pipeline
        { pipeline with dispatcher := { pipeline.dispatcher with phase := .stalled sample } }
  /-- It finds the consumer gone. -/
  | detach {sample : StreamedSample} (phase : pipeline.dispatcher.phase = .delivering sample)
      (unreceived : pipeline.dispatcher.sink.receiverAlive = false) :
      Advance pipeline
        { pipeline with
          dispatcher :=
            { pipeline.dispatcher with
              phase := .dropping
              attached := false
              sink := pipeline.dispatcher.sink.dropSender } }
  /-- It was asked to stop and gives up a sample that does not fit. -/
  | giveUp {sample : StreamedSample} (phase : pipeline.dispatcher.phase = .stalled sample)
      (requested : pipeline.dispatcher.stopRequested = true) :
      Advance pipeline
        { pipeline with dispatcher := { pipeline.dispatcher with phase := .dropping } }
  /-- It tries again to send a sample that did not fit. -/
  | retry {sample : StreamedSample} (phase : pipeline.dispatcher.phase = .stalled sample)
      (unrequested : pipeline.dispatcher.stopRequested = false) :
      Advance pipeline
        { pipeline with dispatcher := { pipeline.dispatcher with phase := .delivering sample } }
  /-- It counts a measurement that was left out. -/
  | countSuppressed (phase : pipeline.dispatcher.phase = .suppressing) :
      Advance pipeline
        { pipeline with
          dispatcher :=
            { pipeline.dispatcher with
              phase := .checking
              stats :=
                { pipeline.dispatcher.stats with
                  suppressed := pipeline.dispatcher.stats.suppressed + 1 } } }
  /-- It counts a sample that was sent. -/
  | countForwarded (phase : pipeline.dispatcher.phase = .forwarding) :
      Advance pipeline
        { pipeline with
          dispatcher :=
            { pipeline.dispatcher with
              phase := .checking
              stats :=
                { pipeline.dispatcher.stats with
                  forwarded := pipeline.dispatcher.stats.forwarded + 1 } } }
  /-- It counts a sample that was lost. -/
  | countDropped (phase : pipeline.dispatcher.phase = .dropping) :
      Advance pipeline
        { pipeline with
          dispatcher :=
            { pipeline.dispatcher with
              phase := .checking
              stats :=
                { pipeline.dispatcher.stats with
                  dropped := pipeline.dispatcher.stats.dropped + 1 } } }
  /-- It is at its end, where nothing happens. -/
  | stay {exit : DispatchExit} (phase : pipeline.dispatcher.phase = .ended exit) :
      Advance pipeline pipeline

/-- What down-sampling does to a measurement. -/
private theorem downSample_eq (dispatcher : Dispatcher) (sensor : Handle) (sample : Sample) :
    dispatcher.downSample sensor sample =
      { dispatcher with
        downSampler := dispatcher.downSampler.after [(sensor, sample)]
        phase := match dispatcher.downSampler.pass (sensor, sample) with
          | none => .suppressing
          | some streamed => if dispatcher.attached then .delivering streamed else .dropping } := by
  simp only [Dispatcher.downSample, DownSampler.pass, DownSampler.after_singleton]
  cases (dispatcher.downSampler.accept sensor).1 <;> rfl

/-- The step function takes one of the steps. -/
theorem advance_step (pipeline : Pipeline Source) : pipeline.Advance pipeline.step := by
  cases phase : pipeline.dispatcher.phase with
  | checking =>
      cases requested : pipeline.dispatcher.stopRequested with
      | true => simpa [step, phase, Dispatcher.step, requested] using Advance.cancel phase requested
      | false => simpa [step, phase, Dispatcher.step, requested] using Advance.goOn phase requested
  | waiting => simpa only [step, phase] using Advance.wait phase
  | handling event =>
      cases isNotice : event.notice? with
      | some notice =>
          simpa [step, phase, Dispatcher.step, Dispatcher.handle, isNotice] using
            Advance.countNotice phase isNotice
      | none =>
          cases isMeasurement : event.measurement? with
          | none =>
              simpa [step, phase, Dispatcher.step, Dispatcher.handle, isNotice, isMeasurement] using
                Advance.passOver phase isNotice isMeasurement
          | some measurement =>
              simpa [step, phase, Dispatcher.step, Dispatcher.handle, isNotice, isMeasurement] using
                Advance.countMeasurement phase isNotice isMeasurement
  | recording notice => simpa only [step, phase] using Advance.record phase
  | admitting sensor sample =>
      cases passes : pipeline.dispatcher.downSampler.pass (sensor, sample) with
      | none =>
          simpa [step, phase, Dispatcher.step, downSample_eq, passes] using
            Advance.suppress phase passes
      | some streamed =>
          cases attached : pipeline.dispatcher.attached with
          | true =>
              simpa [step, phase, Dispatcher.step, downSample_eq, passes, attached] using
                Advance.letThrough phase passes attached
          | false =>
              simpa [step, phase, Dispatcher.step, downSample_eq, passes, attached] using
                Advance.lose phase passes attached
  | suppressing => simpa only [step, phase, Dispatcher.step] using Advance.countSuppressed phase
  | delivering sample =>
      cases received : pipeline.dispatcher.sink.receiverAlive with
      | false =>
          simpa [step, phase, Dispatcher.step, Dispatcher.deliver, Channel.send, received] using
            Advance.detach phase received
      | true =>
          cases full : pipeline.dispatcher.sink.isFull with
          | true =>
              simpa [step, phase, Dispatcher.step, Dispatcher.deliver, Channel.send, received, full]
                using Advance.stall phase received full
          | false =>
              simpa [step, phase, Dispatcher.step, Dispatcher.deliver, Channel.send, received, full]
                using Advance.send phase received full
  | stalled sample =>
      cases requested : pipeline.dispatcher.stopRequested with
      | true => simpa [step, phase, Dispatcher.step, requested] using Advance.giveUp phase requested
      | false => simpa [step, phase, Dispatcher.step, requested] using Advance.retry phase requested
  | forwarding => simpa only [step, phase, Dispatcher.step] using Advance.countForwarded phase
  | dropping => simpa only [step, phase, Dispatcher.step] using Advance.countDropped phase
  | ended exit => simpa only [step, phase, Dispatcher.step] using Advance.stay phase

end Pipeline

end SensorStream
