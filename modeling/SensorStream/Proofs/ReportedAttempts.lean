import SensorStream.Proofs.LifeCycle
import SensorStream.Proofs.Retries

/-!
# The attempts that a client reports

A client that could not connect reports how many attempts were allowed and the failure of the
last one.  So many were made unless an earlier one had found the source shut down: then there
were fewer.
-/

namespace SensorStream

/-! ## Failures only -/

namespace Attempts

theorem results_of_error {attempts : Attempts} {last : AcquireError}
    (failed : attempts.result = .error last) : attempts.results = attempts.failures.map .error := by
  rcases attempts with ⟨failures, handle?⟩
  cases handle? with
  | none => exact List.append_nil _
  | some handle => cases failed

/-- All attempts were failures, so many were allowed, and this was the last. -/
structure Fail (limit : Nat) (failures : List AcquireError) (last : AcquireError) : Prop where
  within : failures.length ≤ limit
  last_eq : failures.getLast? = some last
  goesOn : .sourceClosed ∉ failures.dropLast
  ends : last = .sourceClosed ∨ failures.length = limit

namespace Fail

variable {limit : Nat} {failures : List AcquireError} {last : AcquireError}

theorem exists_concat (fail : Fail limit failures last) :
    ∃ earlier : List AcquireError, failures = earlier ++ [last] ∧ .sourceClosed ∉ earlier := by
  rcases List.getLast?_eq_some_iff.1 fail.last_eq with ⟨earlier, rfl⟩
  have goesOn := fail.goesOn
  rw [List.dropLast_concat] at goesOn
  exact ⟨earlier, rfl, goesOn⟩

/-- Fewer attempts than allowed are made exactly if one of them finds the source shut down and
is not the last that is allowed. -/
theorem length_lt_iff (fail : Fail limit failures last) :
    failures.length < limit ↔ .sourceClosed ∈ failures.take (limit - 1) := by
  rcases fail.exists_concat with ⟨earlier, rfl, goesOn⟩
  have within := fail.within
  have ends := fail.ends
  rw [List.length_append, List.length_singleton] at within ends ⊢
  constructor
  · intro fewer
    rcases ends with rfl | full
    · rw [List.take_of_length_le (by rw [List.length_append, List.length_singleton]; omega)]
      exact List.mem_append_right earlier (List.mem_singleton_self _)
    · omega
  · intro closed
    rcases Nat.lt_or_eq_of_le within with fewer | rfl
    · exact fewer
    · rw [Nat.add_sub_cancel, List.take_left] at closed
      exact absurd closed goesOn

end Fail

/-- If the attempts up to the last are made and that is a failure, all of them are. -/
theorem EndWith.fail {limit last : Nat} {outcome : Nat → Except AcquireError Handle}
    {failures : List AcquireError} {failure : AcquireError} (ends : EndWith limit outcome last)
    (made : failures.map .error = (List.range (last + 1)).map outcome)
    (failed : outcome last = .error failure) : Fail limit failures failure := by
  rw [List.range_succ, List.map_append, List.map_singleton, failed] at made
  rcases List.map_eq_append_iff.1 made with ⟨earlier, final, rfl, before, single⟩
  rcases List.map_eq_singleton_iff.1 single with ⟨_, rfl, same⟩
  cases same
  have length : earlier.length = last := by
    simpa using congrArg List.length before
  refine ⟨?_, List.getLast?_concat, ?_, ?_⟩
  · rw [List.length_append, length]
    exact ends.within
  · rw [List.dropLast_concat]
    intro closed
    have member : Except.error AcquireError.sourceClosed ∈ (List.range last).map outcome :=
      before ▸ List.mem_map_of_mem closed
    rcases List.mem_map.1 member with ⟨attempt, earlier, result⟩
    refine ends.goesOn attempt (List.mem_range.1 earlier) ?_
    rw [result]
    rfl
  · rw [List.length_append, length]
    refine ends.ends.imp_left ?_
    rw [failed]
    exact id

end Attempts

/-- The attempts are those up to the last, and each of them asks the source. -/
theorem Connector.exists_endWith_connect {World Source : Type} [EventSource Source]
    {connector : Connector} {approach : Approach World} {sensor : Descriptor}
    {ledger : World → Ledger Source} (reaches : approach.Reaches sensor ledger) (world : World) :
    ∃ (outcome : Nat → Except AcquireError Handle) (last : Nat),
      Attempts.EndWith connector.maxAttempts outcome last ∧
        (connector.connect approach world).1.results = (List.range (last + 1)).map outcome ∧
        requestsIn (ledger (connector.connect approach world).2).dealings =
          requestsIn (ledger world).dealings ++
            (connector.connect approach world).1.results.map (.acquired sensor) := by
  rcases connector.exists_last approach world with ⟨last, ends⟩
  rcases connector.attemptUpTo_eq approach ends with ⟨results, later⟩
  refine ⟨_, last, ends, results, ?_⟩
  rw [connect, later, results, requestsIn_after reaches, List.map_map]
  rfl

/-! ## The report -/

/-- What a client has done by the time it reports, after a call to connect to the sensor with
this number, that so many attempts have failed, the last of them in this way. -/
structure Client.Reports {Source : Type} [EventSource Source]
    (schedule : Schedule (Ledger Source)) (client : Client (Ledger Source)) (index reported : Nat)
    (last : AcquireError) (sensor : Descriptor) (failures : List AcquireError) : Prop where
  listed : client.sensors[index]? = some sensor
  /-- The source was asked for the sensor as often as there are failures, and for nothing else. -/
  requests : requestsIn (client.connect schedule index).2.source.dealings =
    requestsIn client.source.dealings ++
      failures.map fun failure => .acquired sensor (.error failure)
  /-- What is reported is the failure of the last attempt, -/
  last_eq : failures.getLast? = some last
  /-- and as many attempts as are allowed. -/
  limit : reported = max 1 client.config.connectAttempts.toNat
  within : failures.length ≤ reported
  /-- There were fewer exactly if one before the last that is allowed has found the source shut
  down. -/
  fewer_iff : failures.length < reported ↔ .sourceClosed ∈ failures.take (reported - 1)
  text : (ClientError.connectFailed reported last).message =
    "Could not connect to sensor after " ++ toString reported ++ " attempt(s): " ++ last.message

namespace Client

variable {Source : Type} [EventSource Source] (schedule : Schedule (Ledger Source))
  (client : Client (Ledger Source))

/-- The attempts of a client are those of its connector, each of which asks the source. -/
theorem exists_endWith_attemptConnection (sensor : Descriptor) :
    ∃ (outcome : Nat → Except AcquireError Handle) (last : Nat),
      Attempts.EndWith client.connector.maxAttempts outcome last ∧
        (client.attemptConnection schedule sensor).1.results =
          (List.range (last + 1)).map outcome ∧
        requestsIn (client.attemptConnection schedule sensor).2.source.dealings =
          requestsIn client.source.dealings ++
            (client.attemptConnection schedule sensor).1.results.map (.acquired sensor) := by
  rw [attemptConnection]
  cases working : client.scene? with
  | none => exact Connector.exists_endWith_connect (Approach.reaches_direct sensor) client.source
  | some scene =>
      rw [← source_of_scene? working]
      exact Connector.exists_endWith_connect (Scene.reaches_approach schedule sensor) scene

variable {schedule client}

/-- A client says that it could not connect after the attempts have failed, and only then. -/
theorem attemptConnection_of_connectFailed {index reported : Nat} {last : AcquireError}
    (failed : (client.connect schedule index).1 = .error (.connectFailed reported last)) :
    ∃ sensor : Descriptor, client.sensors[index]? = some sensor ∧
      reported = client.connector.maxAttempts ∧
      ((client.transition .connecting).attemptConnection schedule sensor).1.result = .error last ∧
      (client.connect schedule index).2.source =
        ((client.transition .connecting).attemptConnection schedule sensor).2.source := by
  rw [connect] at failed ⊢
  split at failed
  · cases failed
  · rename_i state
    rw [if_neg state]
    cases listed : client.sensors[index]? with
    | none =>
        rw [listed] at failed
        cases failed
    | some sensor =>
        rw [listed] at failed
        refine ⟨sensor, rfl, ?_⟩
        have kept := (client.transition .connecting).kept_attemptConnection schedule sensor
        simp only at failed ⊢
        generalize (client.transition .connecting).attemptConnection schedule sensor = answer
          at kept failed ⊢
        rcases answer with ⟨attempts, tried⟩
        have limit : tried.connector.maxAttempts = client.connector.maxAttempts := by
          rw [connector, kept.config]
          rfl
        simp only at failed ⊢
        split at failed
        · cases failed
        · rename_i missed
          cases failed
          exact ⟨limit, missed, rfl⟩

/-- Whatever the outcomes of its attempts are, a client that reports failed attempts has made
as many as are allowed, or fewer if the source was found shut down. -/
theorem exists_reports {index reported : Nat} {last : AcquireError}
    (failed : (client.connect schedule index).1 = .error (.connectFailed reported last)) :
    ∃ (sensor : Descriptor) (failures : List AcquireError),
      client.Reports schedule index reported last sensor failures := by
  rcases attemptConnection_of_connectFailed failed with ⟨sensor, listed, rfl, missed, later⟩
  rcases (client.transition .connecting).exists_endWith_attemptConnection schedule sensor
    with ⟨outcome, attempt, ends, results, requests⟩
  have made := Attempts.results_of_error missed
  have outcome_last : outcome attempt = .error last := by
    rw [← missed]
    symm
    apply Attempts.getLast?_results
    simp [results, List.range_succ]
  have fail := ends.fail (made.symm.trans results) outcome_last
  refine ⟨sensor, _, listed, ?_, fail.last_eq, Nat.max_comm _ _, fail.within,
    fail.length_lt_iff, rfl⟩
  rw [later, requests, made, List.map_map]
  rfl

end Client

/-! ## In a client's life -/

namespace Life

section Reports

variable {Source : Type} [EventSource Source] {schedule : Schedule (Ledger Source)}
  {config : Config} {source : Ledger Source} {life : Life (Ledger Source)}

/-- A client that reports failed attempts, at any time of its life, has asked for the sensor once
for each failure, and reports the last of them.  The number that it reports is that of the
attempts that are allowed, at least one, and fewer were made exactly if the source was found
shut down before the last of these. -/
theorem exists_reports_of_reachable (reachable : Reachable schedule config source life)
    {index reported : Nat} {last : AcquireError}
    (failed : (life.client.connect schedule index).1 = .error (.connectFailed reported last)) :
    ∃ (sensor : Descriptor) (failures : List AcquireError),
      life.client.Reports schedule index reported last sensor failures ∧
        reported = max 1 config.connectAttempts.toNat := by
  rcases Client.exists_reports failed with ⟨sensor, failures, reports⟩
  refine ⟨sensor, failures, reports, ?_⟩
  rw [reports.limit, reachable.config_eq, Nat.max_comm]
  exact Client.maxAttempts_sanitized config

end Reports

/-- A source that has one sensor, and these answers to the attempts to acquire it. -/
def offering (answers : List (Except AcquireError (Handle × List Cue))) : Ledger Script :=
  .start (.ofResults
    [.ok [.event (.found ⟨"LPMS", "a", .simulated, "sim"⟩), .event (.progress 1)]] answers)

/-- Three attempts are reported after the second of them has found the source shut down. -/
theorem exists_reports_of_offering :
    ∃ life : Life (Ledger Script),
      Reachable .patient .default (offering [.error .refused, .error .sourceClosed]) life ∧
        (life.client.connect .patient 0).1 = .error (.connectFailed 3 .sourceClosed) ∧
        ∃ (sensor : Descriptor) (failures : List AcquireError),
          life.client.Reports .patient 0 3 .sourceClosed sensor failures ∧
            3 = max 1 Config.default.connectAttempts.toNat := by
  have reachable : Reachable .patient .default
      (offering [.error .refused, .error .sourceClosed]) _ :=
    .meet (.meet .begin .start) .awaitDiscovery
  refine ⟨_, reachable, ?_, exists_reports_of_reachable reachable ?_⟩
  · decide +kernel
  · decide +kernel

/-- The number that is reported need not be that of the attempts that were made: three are
reported after a single one has found the source shut down. -/
theorem not_made_of_reported :
    ¬∀ (config : Config) (source : Ledger Script) (life : Life (Ledger Script))
      (index reported : Nat) (last : AcquireError),
      Reachable .patient config source life →
        (life.client.connect .patient index).1 = .error (.connectFailed reported last) →
          acquisitionsIn (life.client.connect .patient index).2.source.dealings =
            acquisitionsIn life.client.source.dealings + reported := by
  intro made
  have reachable : Reachable .patient .default (offering [.error .sourceClosed]) _ :=
    .meet (.meet .begin .start) .awaitDiscovery
  have reported := made .default _ _ 0 3 .sourceClosed reachable (by decide +kernel)
  revert reported
  decide +kernel

end Life

end SensorStream
