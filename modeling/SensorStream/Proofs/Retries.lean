import SensorStream.Proofs.Dealings
import SensorStream.Proofs.LinkStore

/-!
# Connecting with retries

The attempts to connect, if they went on without end, would have one outcome after the other.
The first of these that is a success or says that the source is shut down ends the trying, or
else the limit does.  Nothing is asked of the source but these attempts, and a hub that is the
source holds one link more after a success and no other links after a failure.
-/

namespace SensorStream

/-! ## The last attempt -/

namespace Attempts

/-- An outcome after which no other attempt is made. -/
def Settles : Except AcquireError Handle → Prop
  | .ok _ => True
  | .error error => error = .sourceClosed

/-- With so many attempts allowed and these outcomes, the attempt with this number, counted from
zero, is the last. -/
structure EndWith (limit : Nat) (outcome : Nat → Except AcquireError Handle) (last : Nat) :
    Prop where
  within : last < limit
  goesOn : ∀ attempt < last, ¬Settles (outcome attempt)
  ends : Settles (outcome last) ∨ last + 1 = limit

namespace EndWith

variable {limit last : Nat} {outcome : Nat → Except AcquireError Handle}

/-- There is a last attempt. -/
theorem exists_of_pos (positive : 0 < limit) (outcome : Nat → Except AcquireError Handle) :
    ∃ last : Nat, EndWith limit outcome last := by
  induction limit generalizing outcome with
  | zero => cases positive
  | succ limit ih =>
      by_cases settles : Settles (outcome 0)
      · exact ⟨0, Nat.succ_pos limit, nofun, .inl settles⟩
      · rcases Nat.eq_zero_or_pos limit with rfl | more
        · exact ⟨0, Nat.one_pos, nofun, .inr rfl⟩
        · rcases ih more fun attempt => outcome (attempt + 1) with ⟨last, within, goesOn, ends⟩
          refine ⟨last + 1, Nat.succ_lt_succ within, ?_, ends.imp_right (congrArg Nat.succ)⟩
          intro attempt earlier
          cases attempt with
          | zero => exact settles
          | succ attempt => exact goesOn attempt (Nat.lt_of_succ_lt_succ earlier)

/-- No attempt comes after the last. -/
theorem le {other : Nat} (ends : EndWith limit outcome last) (also : EndWith limit outcome other) :
    other ≤ last := by
  rcases Nat.lt_or_ge last other with later | notLater
  · rcases ends.ends with settles | limited
    · exact absurd settles (also.goesOn last later)
    · have within := also.within
      omega
  · exact notLater

/-- There is only one last attempt. -/
theorem iff_eq (ends : EndWith limit outcome last) (other : Nat) :
    EndWith limit outcome other ↔ other = last := by
  constructor
  · exact fun also => Nat.le_antisymm (ends.le also) (also.le ends)
  · rintro rfl
    exact ends

/-- The first outcome is left out. -/
theorem tail (ends : EndWith (limit + 1) outcome (last + 1)) :
    EndWith limit (fun attempt => outcome (attempt + 1)) last where
  within := Nat.lt_of_succ_lt_succ ends.within
  goesOn := fun attempt earlier => ends.goesOn (attempt + 1) (Nat.succ_lt_succ earlier)
  ends := ends.ends.imp_right Nat.succ.inj

end EndWith

/-- What the attempts come to is the outcome of the last. -/
theorem getLast?_results {attempts : Attempts} {result : Except AcquireError Handle}
    (last : attempts.results.getLast? = some result) : attempts.result = result := by
  rcases attempts with ⟨failures, handle?⟩
  cases handle? with
  | some handle => simpa [results, Attempts.result] using last
  | none =>
      rcases List.eq_nil_or_concat failures with rfl | ⟨earlier, failure, rfl⟩
      · cases last
      · simpa [results, Attempts.result] using last

end Attempts

/-! ## One attempt after the other -/

namespace Connector

variable {World : Type} (connector : Connector) (approach : Approach World)

/-- What the time between two attempts makes of the world. -/
def rest (world : World) : World :=
  if connector.retryDelay.isZero then world else approach.pause connector.retryDelay world

/-- The world at the attempt with this number, if the attempts before it were made. -/
def before : World → Nat → World
  | world, 0 => world
  | world, attempt + 1 => before (connector.rest approach (approach.acquire world).2) attempt

/-- The outcome of the attempt with this number. -/
def outcome (world : World) (attempt : Nat) : Except AcquireError Handle :=
  (approach.acquire (connector.before approach world attempt)).1

/-- The world after the attempt with this number. -/
def after (world : World) (attempt : Nat) : World :=
  (approach.acquire (connector.before approach world attempt)).2

theorem before_succ (world : World) (attempt : Nat) :
    connector.before approach world (attempt + 1) =
      connector.rest approach (connector.after approach world attempt) := by
  induction attempt generalizing world with
  | zero => rfl
  | succ attempt ih => exact ih (connector.rest approach (approach.acquire world).2)

/-- An attempt that settles the trying or exhausts the limit is the only one. -/
theorem attemptUpTo_of_closing {limit : Nat} {world : World}
    (closing : Attempts.Settles (approach.acquire world).1 ∨ limit = 0) :
    (connector.attemptUpTo approach (limit + 1) world).1.results = [(approach.acquire world).1] ∧
      (connector.attemptUpTo approach (limit + 1) world).2 = (approach.acquire world).2 := by
  rw [attemptUpTo]
  generalize approach.acquire world = attempt at closing ⊢
  rcases attempt with ⟨error | handle, next⟩
  · simp only
    split
    · exact ⟨rfl, rfl⟩
    · rename_i goesOn
      rcases closing with settles | rfl
      · exact absurd settles goesOn
      · exact ⟨rfl, rfl⟩
  · exact ⟨rfl, rfl⟩

/-- Any other attempt is followed by a rest and the attempts after it. -/
theorem attemptUpTo_of_failure {limit : Nat} {world : World}
    (goesOn : ¬Attempts.Settles (approach.acquire world).1) (more : limit ≠ 0) :
    (connector.attemptUpTo approach (limit + 1) world).1.results =
        (approach.acquire world).1 :: (connector.attemptUpTo approach limit
          (connector.rest approach (approach.acquire world).2)).1.results ∧
      (connector.attemptUpTo approach (limit + 1) world).2 =
        (connector.attemptUpTo approach limit
          (connector.rest approach (approach.acquire world).2)).2 := by
  rw [attemptUpTo]
  generalize approach.acquire world = attempt at goesOn ⊢
  rcases attempt with ⟨error | handle, next⟩
  · have other : error ≠ .sourceClosed := goesOn
    simp only [if_neg other, more, decide_false, Bool.false_or]
    exact ⟨rfl, rfl⟩
  · exact absurd trivial goesOn

/-- The attempts are made one after the other up to the last, and no others. -/
theorem attemptUpTo_eq {limit last : Nat} {world : World}
    (ends : Attempts.EndWith limit (connector.outcome approach world) last) :
    (connector.attemptUpTo approach limit world).1.results =
        (List.range (last + 1)).map (connector.outcome approach world) ∧
      (connector.attemptUpTo approach limit world).2 = connector.after approach world last := by
  induction limit generalizing last world with
  | zero => cases ends.within
  | succ limit ih =>
      cases last with
      | zero =>
          have closing : Attempts.Settles (approach.acquire world).1 ∨ limit = 0 :=
            ends.ends.imp_right fun same => (Nat.succ.inj same).symm
          exact connector.attemptUpTo_of_closing approach closing
      | succ last =>
          have goesOn : ¬Attempts.Settles (approach.acquire world).1 :=
            ends.goesOn 0 (Nat.succ_pos last)
          have more : limit ≠ 0 := Nat.ne_of_gt (Nat.zero_lt_of_lt ends.tail.within)
          rcases connector.attemptUpTo_of_failure approach goesOn more with ⟨results, later⟩
          rcases ih ends.tail with ⟨rest, final⟩
          refine ⟨?_, later.trans final⟩
          rw [results, rest, List.range_succ_eq_map (n := last + 1), List.map_cons, List.map_map]
          rfl

/-- What the attempts come to is the outcome of the last. -/
theorem result_attemptUpTo {limit last : Nat} {world : World}
    (ends : Attempts.EndWith limit (connector.outcome approach world) last) :
    (connector.attemptUpTo approach limit world).1.result =
      connector.outcome approach world last := by
  apply Attempts.getLast?_results
  rw [(connector.attemptUpTo_eq approach ends).1, List.range_succ]
  simp

/-- What each attempt adds to a record that nothing else adds to. -/
theorem record_after {Entry : Type} (record : World → List Entry)
    (note : Except AcquireError Handle → List Entry)
    (acquires : ∀ world, record (approach.acquire world).2 =
      record world ++ note (approach.acquire world).1)
    (pauses : ∀ span world, record (approach.pause span world) = record world)
    (world : World) (last : Nat) :
    record (connector.after approach world last) =
      record world ++
        (List.range (last + 1)).flatMap fun attempt =>
          note (connector.outcome approach world attempt) := by
  induction last with
  | zero =>
      rw [List.range_one, List.flatMap_singleton]
      exact acquires world
  | succ last ih =>
      have rested : record (connector.rest approach (connector.after approach world last)) =
          record (connector.after approach world last) := by
        rw [rest]
        split
        · rfl
        · exact pauses _ _
      rw [List.range_succ, List.flatMap_append, ← List.append_assoc, ← ih, ← rested, after,
        acquires, before_succ]
      simp [outcome, before_succ]

end Connector

/-! ## Getting at a source -/

/-- What waits for events and the passing of time make of a source. -/
inductive Meanwhile {Source : Type} [EventSource Source] : Source → Source → Prop where
  | rest (source : Source) : Meanwhile source source
  | wait {first last : Source} :
      Meanwhile (EventSource.wait first).2 last → Meanwhile first last
  | advance {first last : Source} {budget : Nat} {elapsed : Elapsed budget Source} :
      EventSource.advance budget first = some elapsed →
      Meanwhile elapsed.world last → Meanwhile first last

section Meanwhile

variable {Source : Type} [EventSource Source]

/-- A dispatcher at work only waits for events. -/
theorem Moves.meanwhile {first last : Pipeline Source} (moves : Moves first last) :
    Meanwhile first.source last.source := by
  induction moves with
  | rest pipeline => exact .rest pipeline.source
  | @step first last _ ih =>
      have advance := first.advance_step
      generalize first.step = later at advance ih
      cases advance with
      | wait => exact .wait ih
      | _ => exact ih
  | advance passes _ ih => exact .advance passes ih

theorem Served.meanwhile {first source later : Source} (served : Served first source)
    (meanwhile : Meanwhile source later) : Served first later := by
  induction meanwhile with
  | rest => exact served
  | wait _ ih => exact ih served.wait
  | advance passes _ ih => exact ih (served.advance passes)

/-- Nothing is asked of the source meanwhile. -/
theorem Ledger.requestsIn_meanwhile {ledger later : Ledger Source}
    (meanwhile : Meanwhile ledger later) :
    requestsIn later.dealings = requestsIn ledger.dealings := by
  induction meanwhile with
  | rest => rfl
  | @wait first _ _ ih =>
      have taken : requestsIn (EventSource.wait first).2.dealings = requestsIn first.dealings := by
        change requestsIn (first.dealings ++ _) = _
        rw [requestsIn_append, requestsIn_took, List.append_nil]
      exact ih.trans taken
  | advance passes _ ih =>
      rcases Option.map_eq_some_iff.1 passes with ⟨elapsed, _, rfl⟩
      exact ih

end Meanwhile

namespace Hub

variable {System : Type} [Backend System]

/-- No link is opened or given up meanwhile. -/
theorem kept_meanwhile {hub later : Ledger (Hub System)} (meanwhile : Meanwhile hub later) :
    hub.source.Kept later.source := by
  induction meanwhile with
  | rest ledger => exact .refl ledger.source
  | @wait first _ _ ih => exact first.source.kept_wait.trans ih
  | advance passes _ ih =>
      rcases Option.map_eq_some_iff.1 passes with ⟨elapsed, advances, rfl⟩
      exact (kept_advance advances).trans ih

/-- A success is one link more, and a failure none. -/
theorem handles_acquire (hub : Hub System) (sensor : Descriptor) :
    (hub.acquire sensor).2.links.map Prod.fst =
      hub.links.map Prod.fst ++ (hub.acquire sensor).1.toOption.toList := by
  cases active : hub.isShutDown with
  | true =>
      rw [acquire_of_shutDown active]
      exact (List.append_nil _).symm
  | false =>
      rcases hub.unsupported_or_first sensor with
          unsupported | ⟨before, after, system, systems, others, first⟩
      · rw [acquire_of_unsupported active unsupported]
        exact (List.append_nil _).symm
      · rw [acquire_of_first active systems others first]
        generalize Backend.openLink sensor hub.nextHandle hub.queue system = answer
        rcases answer with ⟨error | link, queue, later⟩
        · exact (List.append_nil _).symm
        · simp [hold, drawHandle, Except.toOption]

end Hub

/-- Each attempt asks the source for the sensor, and between the attempts others may at most
wait for events of the source. -/
structure Approach.Reaches {World Source : Type} [EventSource Source] (approach : Approach World)
    (sensor : Descriptor) (source : World → Source) : Prop where
  acquires : ∀ world, ∃ asked : Source, Meanwhile (source world) asked ∧
    (approach.acquire world).1 = (EventSource.acquire sensor asked).1 ∧
    source (approach.acquire world).2 = (EventSource.acquire sensor asked).2
  pauses : ∀ span world, Meanwhile (source world) (source (approach.pause span world))

section Reaches

variable {Source : Type} [EventSource Source]

/-- A caller whom nobody disturbs turns to the source itself. -/
def Approach.direct (sensor : Descriptor) : Approach Source :=
  ⟨EventSource.acquire sensor, fun _ source => source⟩

theorem Approach.reaches_direct (sensor : Descriptor) :
    (Approach.direct sensor).Reaches sensor (id : Source → Source) where
  acquires source := ⟨source, .rest source, rfl, rfl⟩
  pauses _ source := .rest source

/-- A client reaches the source while its dispatcher is at work. -/
theorem Scene.reaches_approach (schedule : Schedule Source) (sensor : Descriptor) :
    (Scene.approach schedule sensor).Reaches sensor fun scene => scene.pipeline.source where
  acquires scene := ⟨_, (scene.moves_between schedule).meanwhile, rfl, rfl⟩
  pauses span scene := (scene.moves_sleep schedule span.nanoseconds).meanwhile

end Reaches

/-! ## What connecting comes to -/

namespace Attempts.EndWith

/-- Only the last attempt can bring a handle. -/
theorem flatMap_toOption {limit last : Nat} {outcome : Nat → Except AcquireError Handle}
    (ends : EndWith limit outcome last) :
    ((List.range (last + 1)).flatMap fun attempt => (outcome attempt).toOption.toList) =
      (outcome last).toOption.toList := by
  have failed :
      ((List.range last).flatMap fun attempt => (outcome attempt).toOption.toList) = [] := by
    rw [List.flatMap_eq_nil_iff]
    intro attempt member
    have goesOn := ends.goesOn attempt (List.mem_range.1 member)
    cases result : outcome attempt with
    | error error => rfl
    | ok handle =>
        rw [result] at goesOn
        exact absurd trivial goesOn
  rw [List.range_succ, List.flatMap_append, failed, List.nil_append, List.flatMap_singleton]

end Attempts.EndWith

namespace Connector

variable {World : Type} (connector : Connector) (approach : Approach World)

section Reached

variable {connector approach} {Source : Type} [EventSource Source] {sensor : Descriptor}

/-- Each attempt is one request for the sensor, and there are no other requests. -/
theorem requestsIn_after {ledger : World → Ledger Source} (reaches : approach.Reaches sensor ledger)
    (world : World) (last : Nat) :
    requestsIn (ledger (connector.after approach world last)).dealings =
      requestsIn (ledger world).dealings ++ (List.range (last + 1)).map fun attempt =>
        .acquired sensor (connector.outcome approach world attempt) := by
  rw [← List.flatMap_singleton' ((List.range (last + 1)).map _), List.flatMap_map]
  apply connector.record_after approach (fun world => requestsIn (ledger world).dealings)
    (fun result => [.acquired sensor result])
  · intro world
    rcases reaches.acquires world with ⟨asked, meanwhile, result, later⟩
    rw [later, result, ← Ledger.requestsIn_meanwhile meanwhile]
    change requestsIn (asked.dealings ++ [_]) = _
    rw [requestsIn_append]
    rfl
  · exact fun span world => Ledger.requestsIn_meanwhile (reaches.pauses span world)

theorem served_after {first : Source} {source : World → Source}
    (reaches : approach.Reaches sensor source) {world : World}
    (served : Served first (source world)) (limit : Nat) :
    Served first (source (connector.attemptUpTo approach limit world).2) := by
  apply connector.attemptUpTo_keeps fun world => Served first (source world)
  · intro world served
    rcases reaches.acquires world with ⟨asked, meanwhile, _, later⟩
    rw [later]
    exact (served.meanwhile meanwhile).acquire sensor
  · exact fun span world served => served.meanwhile (reaches.pauses span world)
  · exact served

/-- Each success is one link more. -/
theorem handles_after {System : Type} [Backend System] {hub : World → Ledger (Hub System)}
    (reaches : approach.Reaches sensor hub) (world : World) (last : Nat) :
    (hub (connector.after approach world last)).source.links.map Prod.fst =
      (hub world).source.links.map Prod.fst ++ (List.range (last + 1)).flatMap fun attempt =>
        (connector.outcome approach world attempt).toOption.toList := by
  apply connector.record_after approach (fun world => (hub world).source.links.map Prod.fst)
    fun result => result.toOption.toList
  · intro world
    rcases reaches.acquires world with ⟨asked, meanwhile, result, later⟩
    rw [later, result, ← (Hub.kept_meanwhile meanwhile).handles]
    exact asked.source.handles_acquire sensor
  · exact fun span world => (Hub.kept_meanwhile (reaches.pauses span world)).handles

variable (connector approach) in
theorem exists_last (world : World) : ∃ last : Nat,
    Attempts.EndWith connector.maxAttempts (connector.outcome approach world) last :=
  Attempts.EndWith.exists_of_pos connector.maxAttempts_pos _

/-- A hub holds one link more after a success, and the same links after a failure. -/
theorem handles_connect {System : Type} [Backend System] {hub : World → Ledger (Hub System)}
    (reaches : approach.Reaches sensor hub) (world : World) :
    (hub (connector.connect approach world).2).source.links.map Prod.fst =
      (hub world).source.links.map Prod.fst ++
        (connector.connect approach world).1.result.toOption.toList := by
  rcases connector.exists_last approach world with ⟨last, ends⟩
  rw [connect, (connector.attemptUpTo_eq approach ends).2, handles_after reaches,
    ends.flatMap_toOption, connector.result_attemptUpTo approach ends]

/-- The link that a hub holds after a success is a new one. -/
theorem not_holds_of_connect {System : Type} [Backend System] {hub : World → Ledger (Hub System)}
    {systems : List System} {capacity : Nat} {first : Hub System} {world : World} {handle : Handle}
    (reaches : approach.Reaches sensor hub) (created : Hub.create systems capacity = .ok first)
    (served : Served (.start first) (hub world))
    (few : acquisitionsIn (hub (connector.connect approach world).2).dealings < UInt64.size)
    (reached : (connector.connect approach world).1.result = .ok handle) :
    (hub world).source.holds handle = false := by
  have after : Served (.start first) (hub (connector.connect approach world).2) :=
    served_after reaches served connector.maxAttempts
  rcases after.stocked (.create created) few with ⟨_, _, stocked⟩
  have distinct := stocked.distinct
  rw [handles_connect reaches, reached, List.nodup_append] at distinct
  rw [← Bool.not_eq_true, Hub.holds_iff]
  intro member
  exact distinct.2.2 handle member handle (List.mem_singleton_self handle) rfl

end Reached

/-- What comes of connecting to a sensor with so many attempts, of which the one with this
number, counted from zero, is the last. -/
structure Concludes (limit : Nat) (sensor : Descriptor) (world : World) (last : Nat) : Prop where
  last_iff : ∀ attempt, Attempts.EndWith limit (connector.outcome approach world) attempt ↔
    attempt = last
  result : (connector.connect approach world).1.result = connector.outcome approach world last
  /-- The attempts up to the last are made, with a rest between two of them, and nothing else. -/
  final : (connector.connect approach world).2 = connector.after approach world last
  /-- Each of them asks the source for the sensor, and nothing else is asked. -/
  requests : ∀ {Source : Type} [EventSource Source] {ledger : World → Ledger Source},
    approach.Reaches sensor ledger →
      requestsIn (ledger (connector.connect approach world).2).dealings =
        requestsIn (ledger world).dealings ++ (List.range (last + 1)).map fun attempt =>
          .acquired sensor (connector.outcome approach world attempt)
  /-- A hub holds one link more after a success, and the same links after a failure. -/
  links : ∀ {System : Type} [Backend System] {hub : World → Ledger (Hub System)},
    approach.Reaches sensor hub →
      (hub (connector.connect approach world).2).source.links.map Prod.fst =
        (hub world).source.links.map Prod.fst ++
          (connector.connect approach world).1.result.toOption.toList
  /-- That link is a new one. -/
  fresh : ∀ {System : Type} [Backend System] {hub : World → Ledger (Hub System)}
    {systems : List System} {capacity : Nat} {first : Hub System} {handle : Handle},
    approach.Reaches sensor hub → Hub.create systems capacity = .ok first →
    Served (.start first) (hub world) →
    acquisitionsIn (hub (connector.connect approach world).2).dealings < UInt64.size →
    (connector.connect approach world).1.result = .ok handle →
      (hub world).source.holds handle = false

end Connector

/-- Whatever the outcomes of the attempts would be, they are made up to the first that is a
success or says that the source is shut down, or else up to the limit, which is at least one;
the last of them decides what comes of connecting. -/
theorem Connector.exists_concludes (maxAttempts : Nat) (retryDelay : Span) {World : Type}
    (approach : Approach World) (sensor : Descriptor) (world : World) :
    ∃ last : Nat, (limitedTo maxAttempts retryDelay).Concludes approach (max 1 maxAttempts) sensor
      world last := by
  have limit : (limitedTo maxAttempts retryDelay).maxAttempts = max 1 maxAttempts :=
    Nat.max_comm maxAttempts 1
  generalize limitedTo maxAttempts retryDelay = connector at limit ⊢
  rcases connector.exists_last approach world with ⟨last, ends⟩
  have final : (connector.connect approach world).2 = connector.after approach world last :=
    (connector.attemptUpTo_eq approach ends).2
  rw [← limit]
  refine ⟨last, ends.iff_eq, connector.result_attemptUpTo approach ends, final, ?_, ?_, ?_⟩
  · intro Source _ ledger reaches
    rw [final, requestsIn_after reaches]
  · intro System _ hub reaches
    exact handles_connect reaches world
  · intro System _ hub systems capacity first handle reaches created served few reached
    exact not_holds_of_connect reaches created served few reached

/-- A hub whose back end refuses once is connected to in the second of three attempts. -/
theorem Connector.concludes_of_reluctant :
    ∃ hub : Hub RehearsedBackend, Hub.create reluctant 4 = .ok hub ∧
      ((limitedTo 3 .zero).connect (.direct SimulatedBackend.sensor) (Ledger.start hub)).1.result =
        .ok ⟨2⟩ ∧
      (limitedTo 3 .zero).Concludes (.direct SimulatedBackend.sensor) 3 SimulatedBackend.sensor
        (Ledger.start hub) 1 := by
  have created : Hub.create reluctant 4 = .ok _ := rfl
  refine ⟨_, created, by decide +kernel, ?_⟩
  rcases exists_concludes 3 .zero (.direct SimulatedBackend.sensor) SimulatedBackend.sensor
      (Ledger.start (Hub.fresh reluctant 4)) with ⟨last, concludes⟩
  have second : 1 = last := by
    rw [← concludes.last_iff]
    refine ⟨by decide, ?_, .inl trivial⟩
    intro attempt earlier
    cases Nat.lt_one_iff.1 earlier
    exact AcquireError.noConfusion
  rw [second]
  exact concludes

end SensorStream
