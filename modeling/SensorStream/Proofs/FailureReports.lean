import SensorStream.Foreign.Library
import SensorStream.Proofs.Holdings

/-!
# What a foreign program is told of a failure

A call that fails returns a number or a null pointer that says no more than that, and what
went wrong is to be read afterwards from the one memory that all clients of the process
share.  A call that failed with an error has put it there.  A call that was refused at once
has not: what is read after it is the latest failure of an earlier call, if there was one
since a client was last created, and nothing otherwise.
-/

namespace SensorStream

/-- What can be read of an error: its wording up to the first NUL character. -/
def ClientError.text (error : ClientError) : String :=
  String.ofList (error.message.toList.takeWhile fun character => character != '\x00')

@[simp] theorem LastError.read_clear : LastError.clear.read = none := rfl

@[simp] theorem LastError.read_set (error : ClientError) :
    (LastError.set error).read = some error.text := rfl

namespace Foreign

/-! ## Calls -/

/-- What a foreign program asks for. -/
inductive Request where
  | init (hardware : Hardware) (environment : Environment) (bits : UInt32)
  | listSensors (room : Int) (arrayIsNull : Bool)
  | obtainSensor (index : Int)
  | receiveSample (milliseconds : Int) (recordIsNull : Bool)
  | shutdown

/-- What it gets for it. -/
inductive Reply where
  | pointer (isNull : Bool)
  | listing (listing : Session.Listing)
  | handle (number : Int)
  | sample (sample? : Option StreamedSample)
  | done
  /-- The call does not return. -/
  | brokenOff

/-- Whether this is what a failure looks like. -/
def Reply.isFailure : Reply → Bool
  | .pointer isNull => isNull
  | .listing result => result.code == Session.failure
  | .handle number => number == Session.failure
  | .sample sample? => sample?.isNone
  | .done => false
  | .brokenOff => false

namespace Request

/-- Carry out a request for the client of a session. -/
def answer (schedule : Schedule (Hub AnyBackend)) (request : Request) (session : Session) :
    Reply × Session :=
  match request with
  | init hardware environment bits =>
      let later := session.init hardware environment bits
      (.pointer later.client?.isNone, later)
  | listSensors room arrayIsNull =>
      match session.listSensors schedule room arrayIsNull with
      | (.listing listing, later) => (.listing listing, later)
      | (.deadlineOverflow, later) => (.brokenOff, later)
  | obtainSensor index =>
      let (number, later) := session.obtainSensor schedule index
      (.handle number, later)
  | receiveSample milliseconds recordIsNull =>
      let (sample?, later) := session.receiveSample schedule milliseconds recordIsNull
      (.sample sample?, later)
  | shutdown => (.done, (session.shutdown schedule).2)

def needsClient : Request → Bool
  | init _ _ _ => false
  | shutdown => false
  | _ => true

/-- No client can make anything of the arguments of this request. -/
def isSenseless : Request → Bool
  | obtainSensor index => index < 0
  | receiveSample _ recordIsNull => recordIsNull
  | _ => false

end Request

/-! ## Verdicts -/

/-- What became of a request, as far as the client knows. -/
inductive Verdict where
  | created
  | listed (count : Nat)
  | connected (handle : Handle)
  | measured (sample : StreamedSample)
  | closed
  | failed (error : ClientError)
  /-- No client was asked. -/
  | refused
  /-- The clock had no reading for the deadline. -/
  | brokenOff
  deriving Repr

namespace Verdict

/-- The result is a number that looks like a failure. -/
def Overflows : Verdict → Prop
  | listed count => count % Nat.pow 2 32 = Nat.pow 2 32 - 1
  | connected handle => handle.number.toNat = Nat.pow 2 64 - 1
  | _ => False

/-- What the memory of failures becomes. -/
def impress (memory : LastError) : Verdict → LastError
  | created => .clear
  | failed error => .set error
  | _ => memory

/-- It leaves the memory as it is. -/
def IsQuiet : Verdict → Prop
  | created => False
  | failed _ => False
  | _ => True

end Verdict

namespace HubClient

variable (schedule : Schedule (Hub AnyBackend)) (client : HubClient)

def discoveryVerdict : Verdict :=
  match client.start schedule with
  | (.error error, _) => .failed error
  | (.ok (), client) =>
      match (client.awaitDiscovery schedule).1 with
      | .ok sensors => .listed sensors.length
      | .error (.error .noSensorFound) => .listed 0
      | .error (.error error) => .failed error
      | .error .deadlineOverflow => .brokenOff

def connectionVerdict (index : Nat) : Verdict :=
  match (client.connect schedule index).1 with
  | .ok handle => .connected handle
  | .error error => .failed error

def sampleVerdict (timeout : Span) : Verdict :=
  match (client.nextSample schedule timeout).1 with
  | .ok sample => .measured sample
  | .error error => .failed error

end HubClient

/-- What becomes of a request for the client behind a pointer. -/
def Request.verdict (schedule : Schedule (Hub AnyBackend)) (client? : Option HubClient) :
    Request → Verdict
  | init hardware _ bits =>
      let asked := TransportSet.ofBits bits
      match Hub.ofInterfaces hardware (if asked.isEmpty then .hardware else asked) with
      | .ok _ => .created
      | .error error => .failed error
  | listSensors _ _ =>
      match client? with
      | none => .refused
      | some client => HubClient.discoveryVerdict schedule client
  | obtainSensor index =>
      match client? with
      | none => .refused
      | some client =>
          if index < 0 then .refused
          else HubClient.connectionVerdict schedule client index.toNat
  | receiveSample milliseconds recordIsNull =>
      match client? with
      | none => .refused
      | some client =>
          if recordIsNull then .refused
          else HubClient.sampleVerdict schedule client (.ofMilliseconds milliseconds.toNat)
  | shutdown => .closed

namespace HubClient

variable {schedule : Schedule (Hub AnyBackend)} {client : HubClient}

theorem discoveryVerdict_ne_refused : discoveryVerdict schedule client ≠ .refused := by
  unfold discoveryVerdict
  split
  · nofun
  · split <;> nofun

theorem connectionVerdict_ne_refused {index : Nat} :
    connectionVerdict schedule client index ≠ .refused := by
  unfold connectionVerdict
  split <;> nofun

theorem sampleVerdict_ne_refused {timeout : Span} :
    sampleVerdict schedule client timeout ≠ .refused := by
  unfold sampleVerdict
  split <;> nofun

end HubClient

/-- A request is refused for want of a client or of sense, and for no other reason. -/
theorem Request.verdict_eq_refused {schedule : Schedule (Hub AnyBackend)}
    {client? : Option HubClient} {request : Request} :
    request.verdict schedule client? = .refused ↔
      request.needsClient = true ∧ client? = none ∨ request.isSenseless = true := by
  cases request with
  | init hardware environment bits =>
      simp only [verdict, needsClient, isSenseless]
      split <;> simp
  | shutdown => simp [verdict, needsClient, isSenseless]
  | listSensors room arrayIsNull =>
      cases client? <;>
        simp [verdict, needsClient, isSenseless, HubClient.discoveryVerdict_ne_refused]
  | obtainSensor index =>
      cases client? <;>
        simp [verdict, needsClient, isSenseless, HubClient.connectionVerdict_ne_refused]
  | receiveSample milliseconds recordIsNull =>
      cases client? <;>
        simp [verdict, needsClient, isSenseless, HubClient.sampleVerdict_ne_refused]

/-! ## What each call tells -/

theorem toWord32_eq_failure {number : Nat} :
    Session.toWord32 number = Session.failure ↔
      number % Nat.pow 2 32 = Nat.pow 2 32 - 1 := by
  change (number : Int).bmod 4294967296 = -1 ↔ number % 4294967296 = 4294967295
  rw [Int.bmod_def]
  split <;> omega

theorem toWord64_eq_failure {number : UInt64} :
    Session.toWord64 number.toNat = Session.failure ↔ number.toNat = Nat.pow 2 64 - 1 := by
  have small : number.toNat < 18446744073709551616 := number.toNat_lt
  change (number.toNat : Int).bmod 18446744073709551616 = -1 ↔
    number.toNat = 18446744073709551615
  rw [Int.bmod_def]
  split <;> omega

/-- How a call ends that came to a verdict. -/
structure Told (session : Session) (verdict : Verdict) (reply : Reply) (later : Session) :
    Prop where
  memory : later.lastError = verdict.impress session.lastError
  reply : reply.isFailure = true ↔
    (∃ error, verdict = .failed error) ∨ verdict = .refused ∨ verdict.Overflows
  unchanged : verdict = .refused → later = session

namespace Told

variable {session later : Session} {reply : Reply}

theorem of_refused (seen : reply.isFailure = true) : Told session .refused reply session :=
  ⟨rfl, by simp [seen], fun _ => rfl⟩

theorem of_failed {error : ClientError} (seen : reply.isFailure = true)
    (recorded : later.lastError = .set error) : Told session (.failed error) reply later :=
  ⟨recorded, by simp [seen], nofun⟩

theorem of_success {verdict : Verdict} (seen : reply.isFailure = false)
    (memory : later.lastError = verdict.impress session.lastError)
    (success : ¬((∃ error, verdict = .failed error) ∨ verdict = .refused ∨ verdict.Overflows)) :
    Told session verdict reply later :=
  ⟨memory, by simp only [seen, success, Bool.false_eq_true],
    fun same => absurd (.inr (.inl same)) success⟩

theorem of_listed {count : Nat} {records : List SensorRecord}
    (same : later.lastError = session.lastError) :
    Told session (.listed count) (.listing ⟨Session.toWord32 count, records⟩) later :=
  ⟨same, by simp [Reply.isFailure, Verdict.Overflows, toWord32_eq_failure], nofun⟩

theorem of_connected {handle : Handle} (same : later.lastError = session.lastError) :
    Told session (.connected handle) (.handle (Session.toWord64 handle.number.toNat)) later :=
  ⟨same, by simp [Reply.isFailure, Verdict.Overflows, toWord64_eq_failure], nofun⟩

end Told

namespace Request

variable (schedule : Schedule (Hub AnyBackend)) (session : Session)

/-- The call as it ends for the client of the session. -/
abbrev Tells (request : Request) : Prop :=
  Told session (request.verdict schedule session.client?) (request.answer schedule session).1
    (request.answer schedule session).2

theorem tells_init (hardware : Hardware) (environment : Environment) (bits : UInt32) :
    Tells schedule session (.init hardware environment bits) := by
  simp only [Tells, answer, verdict, Session.init]
  generalize Hub.ofInterfaces hardware _ = result
  cases result with
  | error error => exact .of_failed rfl rfl
  | ok hub => exact .of_success rfl rfl (by simp [Verdict.Overflows])

theorem tells_listSensors (room : Int) (arrayIsNull : Bool) :
    Tells schedule session (.listSensors room arrayIsNull) := by
  rcases session with ⟨_ | client, lastError⟩
  · exact .of_refused rfl
  · simp only [Tells, answer, verdict, Session.listSensors, HubClient.discoveryVerdict]
    rcases client.start schedule with ⟨error | _, client⟩
    · exact .of_failed rfl rfl
    · dsimp only
      rcases client.awaitDiscovery schedule with ⟨(error | _) | sensors, client⟩
      · cases error with
        | noSensorFound => exact .of_success rfl rfl (by simp [Verdict.Overflows])
        | _ => exact .of_failed rfl rfl
      · exact .of_success rfl rfl (by simp [Verdict.Overflows])
      · exact .of_listed rfl

theorem tells_obtainSensor (index : Int) : Tells schedule session (.obtainSensor index) := by
  rcases session with ⟨_ | client, lastError⟩
  · exact .of_refused rfl
  · simp only [Tells, answer, verdict, Session.obtainSensor, HubClient.connectionVerdict]
    split
    · exact .of_refused rfl
    · rcases client.connect schedule index.toNat with ⟨error | handle, client⟩
      · exact .of_failed rfl rfl
      · dsimp only
        exact .of_connected rfl

theorem tells_receiveSample (milliseconds : Int) (recordIsNull : Bool) :
    Tells schedule session (.receiveSample milliseconds recordIsNull) := by
  rcases session with ⟨_ | client, lastError⟩
  · exact .of_refused rfl
  · simp only [Tells, answer, verdict, Session.receiveSample, HubClient.sampleVerdict]
    split
    · exact .of_refused rfl
    · rcases client.nextSample schedule (.ofMilliseconds milliseconds.toNat) with
        ⟨error | sample, client⟩
      · exact .of_failed rfl rfl
      · exact .of_success rfl rfl (by simp [Verdict.Overflows])

theorem tells (request : Request) : Tells schedule session request := by
  cases request with
  | init hardware environment bits => exact tells_init schedule session hardware environment bits
  | listSensors room arrayIsNull => exact tells_listSensors schedule session room arrayIsNull
  | obtainSensor index => exact tells_obtainSensor schedule session index
  | receiveSample milliseconds recordIsNull =>
      exact tells_receiveSample schedule session milliseconds recordIsNull
  | shutdown => exact .of_success rfl rfl (by simp [verdict, Verdict.Overflows])

end Request

/-! ## Many calls -/

/-- Everything that the calls of a foreign program work on: the clients behind its pointers,
and the memory of failures, which is the same for all of them. -/
structure Process where
  client? : Nat → Option HubClient
  lastError : LastError

/-- A request for the client behind a pointer.  A client that is created is put there. -/
structure Call where
  pointer : Nat
  request : Request
  schedule : Schedule (Hub AnyBackend)

/-- What can happen in the process. -/
inductive Happening where
  | call (call : Call)
  /-- The clients' own threads get on. -/
  | meanwhile (pointer : Nat) (schedule : Schedule (Hub AnyBackend))

namespace Process

def fresh : Process :=
  ⟨fun _ => none, .clear⟩

def session (process : Process) (pointer : Nat) : Session :=
  ⟨process.client? pointer, process.lastError⟩

def store (process : Process) (pointer : Nat) (session : Session) : Process :=
  ⟨Function.update process.client? pointer session.client?, session.lastError⟩

def answer (process : Process) (call : Call) : Reply × Process :=
  let (reply, session) := call.request.answer call.schedule (process.session call.pointer)
  (reply, process.store call.pointer session)

def verdict (process : Process) (call : Call) : Verdict :=
  call.request.verdict call.schedule (process.client? call.pointer)

def next (process : Process) : Happening → Process
  | .call call => (process.answer call).2
  | .meanwhile pointer schedule =>
      let later := (process.client? pointer).map (Client.between schedule)
      process.store pointer ⟨later, process.lastError⟩

def run (process : Process) (happenings : List Happening) : Process :=
  happenings.foldl next process

/-- What became of the calls, one after the other. -/
def verdicts (process : Process) : List Happening → List Verdict
  | [] => []
  | .call call :: later => process.verdict call :: verdicts (process.next (.call call)) later
  | .meanwhile pointer schedule :: later =>
      verdicts (process.next (.meanwhile pointer schedule)) later

theorem told (process : Process) (call : Call) :
    Told (process.session call.pointer) (process.verdict call) (process.answer call).1
      (call.request.answer call.schedule (process.session call.pointer)).2 :=
  call.request.tells call.schedule (process.session call.pointer)

/-- A call that is refused changes nothing at all. -/
theorem answer_of_refused {process : Process} {call : Call}
    (refused : process.verdict call = .refused) : (process.answer call).2 = process := by
  have unchanged := (process.told call).unchanged refused
  simp only [answer]
  rw [unchanged]
  simp [store, session]

/-- Each call leaves its mark on the memory, and nothing else does. -/
theorem lastError_run (process : Process) (happenings : List Happening) :
    (process.run happenings).lastError =
      (process.verdicts happenings).foldl Verdict.impress process.lastError := by
  induction happenings generalizing process with
  | nil => rfl
  | cons happening later ih =>
      rw [run, List.foldl_cons]
      cases happening with
      | call call =>
          have memory := (process.told call).memory
          rw [verdicts, List.foldl_cons]
          exact (ih _).trans (congrArg (List.foldl Verdict.impress · _) memory)
      | meanwhile pointer schedule => exact ih _

end Process

/-- What is to be read after several calls is the latest failure, unless a client was created
since. -/
theorem read_foldl_impress (verdicts : List Verdict) (text : String) :
    (verdicts.foldl Verdict.impress .clear).read = some text ↔
      ∃ error : ClientError, Since (· = .failed error) Verdict.IsQuiet verdicts ∧
        error.text = text := by
  induction verdicts using List.reverseRecOn with
  | nil => simp [not_since_nil]
  | append_singleton earlier last ih =>
      rw [List.foldl_append, List.foldl_cons, List.foldl_nil]
      simp only [since_concat]
      cases last with
      | created => simp [Verdict.impress, Verdict.IsQuiet]
      | failed error => simp [Verdict.impress, Verdict.IsQuiet]
      | _ => simpa [Verdict.impress, Verdict.IsQuiet] using ih

/-- What a foreign program is told of a failure by a call that comes after others with these
verdicts. -/
structure Informed (earlier : List Verdict) (process : Process) (call : Call) : Prop where
  /-- What it gets looks like a failure if the call has failed or was refused, and otherwise
  only if the number that it gets is too great. -/
  failure : (process.answer call).1.isFailure = true ↔
    (∃ error, process.verdict call = .failed error) ∨ process.verdict call = .refused ∨
      (process.verdict call).Overflows
  /-- If the call has failed, its error is to be read afterwards. -/
  failed : ∀ error, process.verdict call = .failed error →
    (process.answer call).2.lastError.read = some error.text
  /-- If it was refused, nothing has changed, -/
  refused : process.verdict call = .refused → (process.answer call).2 = process
  /-- and what is to be read is the latest error of the calls before it, unless a client was
  created since. -/
  stale : ∀ text, process.lastError.read = some text ↔
    ∃ error : ClientError, Since (· = .failed error) Verdict.IsQuiet earlier ∧ error.text = text
  /-- It is refused for want of a client, for a negative index or for want of a record. -/
  reason : process.verdict call = .refused ↔
    call.request.needsClient = true ∧ process.client? call.pointer = none ∨
      call.request.isSenseless = true

/-- Whatever has happened in a process so far. -/
theorem informed_of_run (happenings : List Happening) (call : Call) :
    Informed (Process.fresh.verdicts happenings) (Process.fresh.run happenings) call where
  failure := (Process.told _ call).reply
  failed error failed := by
    have memory := ((Process.fresh.run happenings).told call).memory
    rw [failed] at memory
    exact congrArg LastError.read memory
  refused := Process.answer_of_refused
  stale text := by
    rw [Process.lastError_run]
    exact read_foldl_impress _ text
  reason := Request.verdict_eq_refused

/-- A call may fail for a client and leave nothing to be read: a sensor with a negative
index is asked for. -/
theorem not_read_of_negative_index :
    ¬∀ (happenings : List Happening) (call : Call),
      ((Process.fresh.run happenings).client? call.pointer).isSome = true →
        ((Process.fresh.run happenings).answer call).1.isFailure = true →
          ((Process.fresh.run happenings).answer call).2.lastError.read.isSome = true := by
  intro told
  have read := told [.call ⟨0, .init .none (.ofList []) 4, .patient⟩]
    ⟨0, .obtainSensor (-1), .patient⟩ rfl rfl
  cases read

end Foreign

end SensorStream
