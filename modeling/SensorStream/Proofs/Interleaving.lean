import SensorStream.Client.Run
import SensorStream.Proofs.Advance
import SensorStream.Proofs.Journal

/-!
# What holds under every schedule

Whatever a caller waits for, the schedule lets nothing happen but `Moves`.  A
statement is lasting if the dispatcher's own steps keep it and if it speaks of the
source only through the events that were taken.  A lasting statement that holds
when a caller begins to wait still holds when the wait is over.
-/

namespace SensorStream

/-! ## Waiting is made of moves -/

section Moves

variable {Source : Type} [EventSource Source]

namespace Pipeline

/-- Running to the end is made of the dispatcher's own steps. -/
theorem moves_runToEnd (pipeline : Pipeline Source)
    (requested : pipeline.dispatcher.stopRequested = true) :
    Moves pipeline (pipeline.runToEnd requested).2 := by
  fun_induction runToEnd with
  | case1 pipeline requested exit ended => exact .rest pipeline
  | case2 pipeline requested running ih => exact .step ih

/-- A dispatcher that was run to its end is there. -/
theorem exit?_runToEnd (pipeline : Pipeline Source)
    (requested : pipeline.dispatcher.stopRequested = true) :
    (pipeline.runToEnd requested).2.dispatcher.exit? = some (pipeline.runToEnd requested).1 := by
  fun_induction runToEnd with
  | case1 pipeline requested exit ended => exact ended
  | case2 pipeline requested running ih => exact ih

/-- A dispatcher that was joined does not run any more. -/
theorem isRunning_join (pipeline : Pipeline Source) :
    pipeline.join.2.dispatcher.isRunning = false :=
  congrArg Option.isNone (exit?_runToEnd _ _)

end Pipeline

namespace Scene

theorem moves_between (schedule : Schedule Source) (scene : Scene Source) :
    Moves scene.pipeline (scene.between schedule).pipeline :=
  schedule.between_moves scene.tick scene.pipeline

theorem moves_idle {schedule : Schedule Source} {budget : Nat} {scene : Scene Source}
    {elapsed : Elapsed budget (Scene Source)}
    (happens : scene.idle schedule budget = some elapsed) :
    Moves scene.pipeline elapsed.world.pipeline := by
  rcases Option.map_eq_some_iff.1 happens with ⟨reached, idles, rfl⟩
  exact schedule.idle_moves scene.tick budget scene.pipeline reached idles

theorem moves_lapse (schedule : Schedule Source) (budget : Nat) (positive : 0 < budget)
    (scene : Scene Source) :
    Moves scene.pipeline (scene.lapse schedule budget positive).world.pipeline :=
  schedule.lapse_moves scene.tick budget positive scene.pipeline

theorem moves_sleep (schedule : Schedule Source) (budget : Nat) (scene : Scene Source) :
    Moves scene.pipeline (scene.sleep schedule budget).pipeline := by
  fun_induction sleep with
  | case1 budget scene nothing => exact .rest scene.pipeline
  | case2 budget scene elapsed happens ih => exact (moves_idle happens).trans ih

theorem moves_watchDiscovery (schedule : Schedule Source) (poll : Nat) (poll_pos : 0 < poll)
    (remaining : Nat) (scene : Scene Source) :
    Moves scene.pipeline
      (scene.watchDiscovery schedule poll poll_pos remaining).2.pipeline := by
  fun_induction watchDiscovery with
  | case1 remaining scene looked sensors complete => exact moves_between schedule scene
  | case2 remaining scene looked incomplete again ended =>
      exact (moves_between schedule scene).trans (moves_between schedule looked)
  | case3 scene looked incomplete again running =>
      exact (moves_between schedule scene).trans (moves_between schedule looked)
  | case4 remaining scene looked incomplete again running left nap ih =>
      have looks : Moves scene.pipeline again.pipeline :=
        (moves_between schedule scene).trans (moves_between schedule looked)
      exact (looks.trans (moves_sleep schedule nap again)).trans ih

end Scene

end Moves

/-! ## Replacing a dispatcher is made of turns -/

section Turns

variable {Source : Type} [EventSource Source]

namespace Succession

/-- Running the earlier dispatcher to its end is to let it take steps. -/
theorem exists_play_runToEnd (succession : Succession Source)
    (requested : succession.earlier.stopRequested = true) :
    ∃ steps : Nat, succession.withEarlier (succession.earlierSide.runToEnd requested).2 =
      succession.play (List.replicate steps .earlier) := by
  change succession.earlierSide.dispatcher.stopRequested = true at requested
  generalize same : succession.earlierSide = pipeline at requested ⊢
  fun_induction Pipeline.runToEnd pipeline requested generalizing succession with
  | case1 pipeline requested exit ended => exact ⟨0, same ▸ rfl⟩
  | case2 pipeline requested running ih =>
      rcases ih (succession.turn .earlier) (congrArg Pipeline.step same) with ⟨steps, reached⟩
      exact ⟨steps + 1, reached⟩

/-- What each turn keeps, all of them keep. -/
theorem play_keeps {holds : Succession Source → Prop}
    (acts : ∀ {succession : Succession Source} (turn : Turn),
      holds succession → holds (succession.turn turn))
    {succession : Succession Source} (turns : List Turn) (held : holds succession) :
    holds (succession.play turns) := by
  induction turns generalizing succession with
  | nil => exact held
  | cons turn turns ih => exact ih (acts turn held)

/-- What each turn keeps and a request to stop, the whole replacement keeps. -/
theorem replace_keeps (holds : Succession Source → Prop)
    (acts : ∀ {succession : Succession Source} (turn : Turn),
      holds succession → holds (succession.turn turn))
    (asks : ∀ {succession : Succession Source}, holds succession → holds succession.requestStop)
    (schedule : Schedule Source) (tick : Nat) {succession : Succession Source}
    (held : holds succession) : holds (schedule.replace tick succession) := by
  have beside : holds (schedule.beside tick succession) := asks (play_keeps acts _ held)
  have parting : holds (schedule.parting tick succession) := play_keeps acts _ beside
  rcases exists_play_runToEnd (schedule.parting tick succession).requestStop rfl with
    ⟨steps, ended⟩
  have concluded := play_keeps acts (List.replicate steps .earlier) (asks parting)
  rw [← ended] at concluded
  exact concluded

/-- The earlier dispatcher is at its end when it has been replaced. -/
theorem isRunning_replace (schedule : Schedule Source) (tick : Nat)
    (succession : Succession Source) :
    (schedule.replace tick succession).earlier.isRunning = false :=
  Pipeline.isRunning_join _

end Succession

end Turns

/-! ## Lasting statements -/

/-- The dispatcher's steps keep the statement, and it speaks of the source only
through the events that were taken. -/
structure Lasting {Source : Type} [EventSource Source]
    (holds : Pipeline (Journal Source) → Prop) : Prop where
  step : ∀ {pipeline : Pipeline (Journal Source)}, holds pipeline → holds pipeline.step
  source : ∀ {pipeline : Pipeline (Journal Source)} {source : Journal Source},
    source.taken = pipeline.source.taken → holds pipeline →
      holds { pipeline with source := source }

/-- A statement that every attempt to connect keeps, and every pause, holds after all
attempts. -/
theorem Connector.attemptUpTo_keeps {World : Type} (connector : Connector)
    {approach : Approach World} (holds : World → Prop)
    (acquires : ∀ world, holds world → holds (approach.acquire world).2)
    (pauses : ∀ span world, holds world → holds (approach.pause span world))
    (attempts : Nat) (world : World) (held : holds world) :
    holds (connector.attemptUpTo approach attempts world).2 := by
  induction attempts generalizing world with
  | zero => exact held
  | succ attempts ih =>
      have acquired := acquires world held
      simp only [attemptUpTo]
      generalize approach.acquire world = attempt at acquired
      rcases attempt with ⟨result, next⟩
      cases result with
      | ok handle => exact acquired
      | error error =>
          simp only
          split
          · exact acquired
          · apply ih
            split
            · exact acquired
            · exact pauses connector.retryDelay next acquired

namespace Lasting

variable {Source : Type} [EventSource Source] {holds : Pipeline (Journal Source) → Prop}

theorem moves (lasting : Lasting holds) {first last : Pipeline (Journal Source)}
    (moves : Moves first last) (held : holds first) : holds last := by
  induction moves with
  | rest => exact held
  | step _ ih => exact ih (lasting.step held)
  | advance passes _ ih => exact ih (lasting.source (Journal.taken_advance passes) held)

theorem join (lasting : Lasting holds) {pipeline : Pipeline (Journal Source)}
    (held : holds (pipeline.updateDispatcher Dispatcher.requestStop)) :
    holds pipeline.join.2 :=
  lasting.moves (Pipeline.moves_runToEnd _ _) held

/-- The dispatcher may work while its caller connects to a sensor. -/
theorem connect (lasting : Lasting holds) (schedule : Schedule (Journal Source))
    (connector : Connector) (sensor : Descriptor) {scene : Scene (Journal Source)}
    (held : holds scene.pipeline) :
    holds (connector.connect (Scene.approach schedule sensor) scene).2.pipeline := by
  apply connector.attemptUpTo_keeps fun world : Scene (Journal Source) => holds world.pipeline
  · intro world before
    exact lasting.source rfl (lasting.moves (world.moves_between schedule) before)
  · intro span world before
    exact lasting.moves (world.moves_sleep schedule span.nanoseconds) before
  · exact held

/-- The events that were taken stay taken. -/
theorem taken (events : List Event) :
    Lasting fun pipeline : Pipeline (Journal Source) => events <+: pipeline.source.taken where
  step := by
    intro pipeline before
    have advance := pipeline.advance_step
    generalize pipeline.step = later at advance ⊢
    cases advance with
    | wait =>
        rw [Journal.taken_wait]
        exact before.trans (List.prefix_append _ _)
    | _ => exact before
  source := fun same before => same ▸ before

end Lasting

namespace Scene

variable {Source : Type} [EventSource Source]

theorem taken_between (schedule : Schedule (Journal Source)) (scene : Scene (Journal Source)) :
    scene.pipeline.source.taken <+: (scene.between schedule).pipeline.source.taken :=
  (Lasting.taken _).moves (scene.moves_between schedule) (List.prefix_refl _)

/-- Stopping the dispatcher and its source gives no event back. -/
theorem taken_stop (schedule : Schedule (Journal Source)) (scene : Scene (Journal Source)) :
    scene.pipeline.source.taken <+: (scene.stop schedule).2.2.pipeline.source.taken := by
  have asked := taken_between schedule
    (scene.update fun pipeline => pipeline.updateDispatcher Dispatcher.requestStop)
  have closed := asked.trans (taken_between schedule (Scene.update _ fun pipeline =>
    pipeline.updateSource EventSource.shutdown))
  have disconnected := closed.trans (taken_between schedule (Scene.update _ fun pipeline =>
    pipeline.updateDispatcher fun dispatcher =>
      { dispatcher with sink := dispatcher.sink.dropReceiver }))
  have seen := disconnected.trans (taken_between schedule _)
  exact (Lasting.taken _).join seen

end Scene

end SensorStream
