import SensorStream.Proofs.EnvironmentReading
import SensorStream.Proofs.RunStages
import SensorStream.Source.Script

/-!
# Deadlines

A call that waits until a deadline breaks off if the clock cannot name that deadline.  Discovery
never does so under settings that are read from an environment, since these tell its time in
milliseconds, in 64 bits.  The window of a stream is told in seconds, in as many bits, and can reach
beyond the end of the clock.  A run breaks off there, and nowhere else: it has discovered and is
connected by then.
-/

namespace SensorStream

/-! ## Spans and the clock -/

/-- The clock is far from its end: at least `2 ^ 55` of its `2 ^ 63` seconds are left. -/
def Early (now : Nat) : Prop :=
  now / 1000000000 + Nat.pow 2 55 ≤ Nat.pow 2 63

instance : DecidablePred Early :=
  fun _ => inferInstanceAs (Decidable (_ ≤ _))

variable {now number : Nat}

theorem deadlineFits_iff {span : Span} :
    deadlineFits now span = true ↔ (now + span.nanoseconds) / 1000000000 < Nat.pow 2 63 :=
  decide_eq_true_iff

theorem deadlineFits_ofSeconds :
    deadlineFits now (.ofSeconds number) = true ↔ now / 1000000000 + number < Nat.pow 2 63 := by
  rw [deadlineFits_iff, Span.ofSeconds, Nat.add_mul_div_right _ _ (by decide)]

/-- A deadline is one second later at most than the full seconds of the clock and the span. -/
theorem Early.fits (early : Early now) {span : Span} (short : span.seconds + 1 < Nat.pow 2 55) :
    deadlineFits now span = true := by
  rw [deadlineFits_iff]
  have early : now / 1000000000 + 36028797018963968 ≤ 9223372036854775808 := early
  have short : span.nanoseconds / 1000000000 + 1 < 36028797018963968 := short
  change (now + span.nanoseconds) / 1000000000 < 9223372036854775808
  omega

/-- As many milliseconds as 64 bits can count are less than `2 ^ 55` seconds. -/
theorem seconds_ofMilliseconds_lt (counted : number < UInt64.size) :
    (Span.ofMilliseconds number).seconds + 1 < Nat.pow 2 55 := by
  have counted : number < 18446744073709551616 := counted
  change number * 1000000 / 1000000000 + 1 < 36028797018963968
  omega

/-- Which deadlines the clock can name under the settings from an environment. -/
structure Environment.Deadlines (environment : Environment) (now : Nat) : Prop where
  discovery : deadlineFits now (Config.ofEnvironment environment).discoveryTimeout = true
  window : deadlineFits now (Config.ofEnvironment environment).streamWindow = true ↔
    ∀ number : Nat, Says (environment.value? "ZEN_STREAM_SECS") number →
      now / 1000000000 + number < Nat.pow 2 63

theorem Environment.deadlines (environment : Environment) (early : Early now) :
    environment.Deadlines now where
  discovery := by
    rcases (Config.readFrom_ofEnvironment environment).timeout with ⟨number, said, read⟩ | ⟨_, read⟩
    · rw [read]
      exact early.fits (seconds_ofMilliseconds_lt said.1)
    · rw [read]
      exact early.fits (by decide)
  window := by
    rcases (Config.readFrom_ofEnvironment environment).window with
        ⟨number, said, read⟩ | ⟨silent, read⟩
    · rw [read, deadlineFits_ofSeconds]
      exact ⟨fun fits other again => said.unique again ▸ fits, fun fits => fits number said⟩
    · rw [read]
      exact iff_of_true (early.fits (by decide)) fun number said => absurd said (silent number)

/-! ## Runs -/

namespace Client

variable {Source : Type} [EventSource Source] {schedule : Schedule Source} {config : Config}
  {source : Source} {client : Client Source}

theorem awaitDiscovery_ne_deadlineOverflow
    (fits : deadlineFits (schedule.clock client.tick) client.config.discoveryTimeout = true) :
    (client.awaitDiscovery schedule).1 ≠ .error .deadlineOverflow := by
  intro broken
  have passage := client.passage_meet schedule .awaitDiscovery
  rw [meet, broken] at passage
  change client.Passage schedule .awaitDiscovery (.error .deadlineOverflow) _ at passage
  cases passage with
  | failToDiscover _ _ _ overflow => cases fits.symm.trans (overflow rfl)

/-- A client that is connected breaks off exactly if the clock cannot name the end of the window. -/
theorem stream_eq_deadlineOverflow_iff (state : client.state = .connected)
    (attended : client.Attended) :
    (client.stream schedule).1 = .error .deadlineOverflow ↔
      ¬deadlineFits (schedule.clock client.tick) client.config.streamWindow = true := by
  rcases attended with ⟨scene, working, _⟩
  have now : scene.tick = client.tick := by
    rcases Option.map_eq_some_iff.1 working with ⟨dispatcher, _, rfl⟩
    rfl
  rw [stream, if_neg (not_not_intro state)]
  -- Changing to the state of streaming leaves the settings and the clock as they are.
  have settings : (client.transition .streaming).config = client.config := rfl
  simp only [scene?_transition, working, now, settings]
  cases deadlineFits (schedule.clock client.tick) client.config.streamWindow with
  | false => simp
  | true => simp

theorem Connected.breaks_off_iff {handle : Handle}
    (connected : Connected schedule config source handle client) :
    (run schedule config source).1 = .error .deadlineOverflow ↔
      ¬deadlineFits (schedule.clock client.tick) config.streamWindow = true := by
  rcases connected.reachable with ⟨replies, reachable⟩
  have attended := reachable.orderly.attended (connected.state_eq ▸ rfl)
  have window : client.config.streamWindow = config.streamWindow := by
    rw [reachable.config_eq]
    rfl
  rw [connected.run_eq, ← window, ← stream_eq_deadlineOverflow_iff connected.state_eq attended,
    streamToEnd]
  cases client.stream schedule with
  | mk result later =>
      cases result with
      | error mishap => simp
      | ok observation =>
          -- What has been observed is reported, or there is no connection to report it of.
          simp only [reduceCtorEq, iff_false]
          split <;> simp

/-- A run that discovers in time breaks off, if at all, when it is connected. -/
theorem exists_connected_of_breaking_off
    (fits : ∀ tick : Nat, deadlineFits (schedule.clock tick) config.discoveryTimeout = true)
    (broken : (run schedule config source).1 = .error .deadlineOverflow) :
    ∃ (handle : Handle) (client : Client Source),
      Connected schedule config source handle client := by
  have running := running_run schedule config source
  rw [broken] at running
  generalize (run schedule config source).2 = last at running
  cases running with
  | @undiscovered _ earlier _ started missed =>
      rcases started.reachable with ⟨replies, reachable⟩
      have timeout : earlier.config.discoveryTimeout = config.discoveryTimeout := by
        rw [reachable.config_eq]
        rfl
      exact absurd (congrArg Prod.fst missed)
        (awaitDiscovery_ne_deadlineOverflow (timeout ▸ fits _))
  | unstreamed connected => exact ⟨_, _, connected⟩

/-- Under settings from an environment a run breaks off exactly if it connects at a time when the
window that the environment says reaches beyond the end of the clock. -/
theorem timely_run (early : ∀ tick : Nat, Early (schedule.clock tick)) (environment : Environment)
    (source : Source) :
    (∀ tick : Nat, environment.Deadlines (schedule.clock tick)) ∧
      ((run schedule (.ofEnvironment environment) source).1 = .error .deadlineOverflow ↔
        ∃ (handle : Handle) (client : Client Source) (number : Nat),
          Connected schedule (.ofEnvironment environment) source handle client ∧
            Says (environment.value? "ZEN_STREAM_SECS") number ∧
              Nat.pow 2 63 ≤ schedule.clock client.tick / 1000000000 + number) := by
  have deadlines (tick : Nat) : environment.Deadlines (schedule.clock tick) :=
    environment.deadlines (early tick)
  refine ⟨deadlines, ?_⟩
  constructor
  · intro broken
    rcases exists_connected_of_breaking_off (fun tick => (deadlines tick).discovery) broken with
      ⟨handle, client, connected⟩
    have late := connected.breaks_off_iff.1 broken
    rw [(deadlines client.tick).window] at late
    push Not at late
    rcases late with ⟨number, said, late⟩
    exact ⟨handle, client, number, connected, said, late⟩
  · rintro ⟨handle, client, number, connected, said, late⟩
    rw [connected.breaks_off_iff, (deadlines client.tick).window]
    exact fun fits => absurd (fits number said) (Nat.not_lt.2 late)

/-! ### A window without end -/

/-- An environment that asks for the longest window there is. -/
def endless : Environment :=
  .ofList [("ZEN_STREAM_SECS", "18446744073709551615".toByteArray)]

/-- A source that finds a sensor and lets it be acquired at once. -/
def prompt : Script :=
  .ofResults
    [.ok [.event (.found ⟨"LPMS", "a", .simulated, "sim"⟩), .event (.progress 1)]]
    [.ok (⟨1⟩, [])]

def mishap? (outcome : Except Mishap RunReport) : Option Mishap :=
  match outcome with
  | .ok _ => none
  | .error mishap => some mishap

theorem run_endless :
    (run .patient (.ofEnvironment endless) prompt).1 = .error .deadlineOverflow := by
  have broken : mishap? (run .patient (.ofEnvironment endless) prompt).1 =
      some .deadlineOverflow := by
    decide +kernel
  generalize (run .patient (.ofEnvironment endless) prompt).1 = outcome at broken ⊢
  cases outcome with
  | ok report => cases broken
  | error mishap => exact congrArg Except.error (Option.some.inj broken)

theorem early_patient (tick : Nat) : Early ((.patient : Schedule Script).clock tick) := by
  change Early 1000000000
  decide

theorem timely_run_of_endless :
    (∀ tick : Nat, Early ((.patient : Schedule Script).clock tick)) ∧
      ∃ (handle : Handle) (client : Client Script) (number : Nat),
        Connected .patient (.ofEnvironment endless) prompt handle client ∧
          Says (endless.value? "ZEN_STREAM_SECS") number ∧
            Nat.pow 2 63 ≤ (.patient : Schedule Script).clock client.tick / 1000000000 + number :=
  ⟨early_patient, (timely_run early_patient endless prompt).2.1 run_endless⟩

/-- There are settings from an environment under which a run breaks off. -/
theorem breaks_off_of_endless :
    ¬∀ (schedule : Schedule Script) (environment : Environment) (source : Script),
      (∀ tick : Nat, Early (schedule.clock tick)) →
        (run schedule (.ofEnvironment environment) source).1 ≠ .error .deadlineOverflow :=
  fun timely => timely .patient endless prompt early_patient run_endless

end Client

end SensorStream
