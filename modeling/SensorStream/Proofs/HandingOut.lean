import SensorStream.Proofs.Consuming

/-!
# Each sample is handed out once

A consumer takes samples in four ways: without waiting, waiting without a limit, waiting for a
span of time, and observing a window.  Its calls come in any order, and between them and while
one of them waits or handles a sample, the sending end may put in samples or go away at any time.
All that the calls hand out, followed by what is pending, is what was put in.
-/

namespace SensorStream

/-! ## The sending end -/

/-- A channel, and what was put into it. -/
structure Feed where
  channel : Channel
  sent : List StreamedSample

namespace Feed

def opened (capacity : Option Nat) : Feed :=
  ⟨.withCapacity capacity, []⟩

/-- Put a sample in.  It is not taken if the sending end is gone or there is no room. -/
def send (sample : StreamedSample) (feed : Feed) : Feed :=
  if feed.channel.senderAlive then
    match feed.channel.send sample with
    | .sent channel => ⟨channel, feed.sent ++ [sample]⟩
    | .full => feed
    | .detached => feed
  else feed

/-- The sending end goes away. -/
def disconnect (feed : Feed) : Feed :=
  { feed with channel := feed.channel.dropSender }

/-- What can become of a feed while nobody takes from it. -/
inductive Grows : Feed → Feed → Prop where
  | rest (feed : Feed) : Grows feed feed
  | send {first last : Feed} (sample : StreamedSample) :
      Grows (first.send sample) last → Grows first last
  | disconnect {first last : Feed} : Grows first.disconnect last → Grows first last

/-- When the sending end does what while a call is under way. -/
structure Timing where
  idle : (budget : Nat) → Feed → Option (Elapsed budget Feed)
  lapse : (budget : Nat) → 0 < budget → Feed → Elapsed budget Feed
  idle_grows : ∀ budget feed elapsed, idle budget feed = some elapsed → Grows feed elapsed.world
  lapse_grows : ∀ budget positive feed, Grows feed (lapse budget positive feed).world

/-- The world around a call. -/
def Timing.surroundings (timing : Timing) : Surroundings Feed where
  sink := channel
  withSink channel feed := { feed with channel := channel }
  idle := timing.idle
  lapse := timing.lapse

/-- What both ends of a feed keep: everything the sending end can do, and taking a sample, which
goes to what the consumer was handed. -/
structure Invariant (holds : List StreamedSample → Feed → Prop) : Prop where
  send : ∀ {handed : List StreamedSample} {feed : Feed} (sample : StreamedSample),
    holds handed feed → holds handed (feed.send sample)
  disconnect : ∀ {handed : List StreamedSample} {feed : Feed},
    holds handed feed → holds handed feed.disconnect
  receive : ∀ {handed : List StreamedSample} {feed : Feed}, holds handed feed →
    holds (handed ++ feed.channel.receive.1.samples)
      { feed with channel := feed.channel.receive.2 }

theorem Invariant.grows {holds : List StreamedSample → Feed → Prop} (invariant : Invariant holds)
    {handed : List StreamedSample} {first last : Feed} (grows : Grows first last)
    (held : holds handed first) : holds handed last := by
  induction grows with
  | rest => exact held
  | send sample _ ih => exact ih (invariant.send sample held)
  | disconnect _ ih => exact ih (invariant.disconnect held)

theorem Invariant.keeps {holds : List StreamedSample → Feed → Prop} (invariant : Invariant holds)
    (timing : Timing) : timing.surroundings.Keeps holds where
  poll := invariant.receive
  idle := fun happens held => invariant.grows (timing.idle_grows _ _ _ happens) held
  lapse := fun positive held => invariant.grows (timing.lapse_grows _ positive _) held

/-- Putting a sample in has no effect, or the sample is the last one that is pending. -/
theorem send_cases (sample : StreamedSample) (feed : Feed) :
    feed.send sample = feed ∨ feed.channel.senderAlive = true ∧
      feed.send sample = ⟨{ feed.channel with pending := feed.channel.pending ++ [sample] },
        feed.sent ++ [sample]⟩ := by
  unfold Feed.send
  split
  · rename_i alive
    split
    · rename_i channel sent
      rcases Channel.send_eq_sent_iff.1 sent with ⟨_, _, rfl⟩
      exact .inr ⟨alive, rfl⟩
    · exact .inl rfl
    · exact .inl rfl
  · exact .inl rfl

/-- What was handed out, followed by what is pending, is what was put in. -/
def Parts (handed : List StreamedSample) (feed : Feed) : Prop :=
  handed ++ feed.channel.pending = feed.sent

theorem invariant_parts : Invariant Parts where
  send := by
    intro handed feed sample parts
    rcases feed.send_cases sample with same | ⟨_, grown⟩
    · rw [same]
      exact parts
    · rw [grown, Parts, ← List.append_assoc, parts]
  disconnect := id
  receive := by
    intro handed feed parts
    rcases feed.channel.receive_eq with ⟨rest, pending, left⟩
    rw [left, Parts, List.append_assoc, ← pending]
    exact parts

/-- The sending end is gone, and this is what it had put in. -/
structure Over (sent : List StreamedSample) (feed : Feed) : Prop where
  gone : feed.channel.senderAlive = false
  sent : feed.sent = sent

theorem invariant_over (sent : List StreamedSample) : Invariant fun _ feed => feed.Over sent where
  send := by
    intro _ feed sample ended
    rcases feed.send_cases sample with same | ⟨alive, _⟩
    · rw [same]
      exact ended
    · exact absurd (ended.gone.symm.trans alive) nofun
  disconnect := fun ended => ⟨rfl, ended.sent⟩
  receive := by
    intro _ feed ended
    rcases feed.channel.receive_eq with ⟨rest, _, left⟩
    rw [left]
    exact ⟨ended.gone, ended.sent⟩

/-- The consumer's end of the channel is in place. -/
def Attached (feed : Feed) : Prop :=
  feed.channel.receiverAlive = true

theorem invariant_attached : Invariant fun _ feed => feed.Attached where
  send := by
    intro _ feed sample attached
    rcases feed.send_cases sample with same | ⟨_, grown⟩
    · rw [same]
      exact attached
    · rw [grown]
      exact attached
  disconnect := id
  receive := by
    intro _ feed attached
    rcases feed.channel.receive_eq with ⟨rest, _, left⟩
    rw [left]
    exact attached

/-- A living sending end puts a sample in as soon as there is room. -/
theorem sent_send {feed : Feed} (attached : feed.Attached)
    (alive : feed.channel.senderAlive = true) (room : feed.channel.isFull = false)
    (sample : StreamedSample) : (feed.send sample).sent = feed.sent ++ [sample] := by
  rw [Feed.send, if_pos alive, Channel.send, attached, room]
  rfl

end Feed

/-! ## How long an observation lasts -/

namespace Surroundings

variable {World : Type} (surroundings : Surroundings World)

/-- How much of a window is left when its observation ends.  A wait during which nothing happens
lasts until the window is over. -/
def leftover (window : Nat) (world : World) : Nat :=
  if isOver : window = 0 then 0
  else match surroundings.poll world with
    | (.sample _, rest) =>
        let elapsed := surroundings.lapse window (by omega) rest
        leftover elapsed.left elapsed.world
    | (.stopped, _) => window
    | (.nothing, _) =>
        match surroundings.idle window world with
        | none => 0
        | some elapsed => leftover elapsed.left elapsed.world
termination_by window
decreasing_by all_goals exact elapsed.left_lt

/-- An observation ends before its window is over exactly if the stream stopped. -/
theorem stoppedEarly_iff (window : Nat) (world : World) :
    (surroundings.collect window world).stoppedEarly = true ↔
      0 < surroundings.leftover window world := by
  fun_induction Surroundings.collect with
  | case1 world => simp [leftover]
  | case2 window world ongoing sample rest looked elapsed later ih =>
      rw [leftover, dif_neg ongoing, looked]
      exact ih
  | case3 window world ongoing rest looked =>
      rw [leftover, dif_neg ongoing, looked]
      exact iff_of_true rfl (Nat.pos_of_ne_zero ongoing)
  | case4 window world ongoing rest looked stuck =>
      rw [leftover, dif_neg ongoing, looked, stuck]
      simp
  | case5 window world ongoing rest looked elapsed happens ih =>
      rw [leftover, dif_neg ongoing, looked, happens]
      exact ih

/-- The stream of an observation that ended early is still stopped afterwards. -/
theorem receive_of_stoppedEarly {window : Nat} {world : World}
    (early : (surroundings.collect window world).stoppedEarly = true) :
    (surroundings.sink (surroundings.collect window world).world).receive.1 = .stopped := by
  fun_induction Surroundings.collect with
  | case1 | case4 => cases early
  | case2 window world ongoing sample rest looked elapsed later ih => exact ih early
  | case3 window world ongoing rest looked => exact congrArg Prod.fst looked
  | case5 window world ongoing rest looked elapsed happens ih => exact ih early

theorem collect_zero (world : World) : surroundings.collect 0 world = ⟨[], false, world⟩ := by
  rw [collect]
  rfl

end Surroundings

/-! ## The four calls -/

/-- What a consumer asks for. -/
inductive Demand where
  | tryReceive
  /-- The call is looked at when it has an answer, at the latest after `patience` nanoseconds. -/
  | receive (patience : Nat)
  | receiveTimeout (timeout : Span)
  | observe (window : Span)

/-- What it is told. -/
inductive Response where
  | found (sample? : Option StreamedSample)
  | received (answer? : Option (Except ClientError StreamedSample))
  | waited (answer : Except ClientError StreamedSample)
  | observed (observation : Observation)

namespace Response

/-- The samples that the consumer is handed with it. -/
def handed : Response → List StreamedSample
  | found sample? => sample?.toList
  | received answer? => (answer?.bind Except.toOption).toList
  | waited answer => answer.toOption.toList
  | observed observation => observation.seen

/-- The error that it is told, if it is told one. -/
def error? : Response → Option ClientError
  | received (some (.error error)) => some error
  | waited (.error error) => some error
  | _ => none

end Response

namespace Demand

/-- Serve a call. -/
def serve (timing : Feed.Timing) (feed : Feed) : Demand → Response × Feed
  | tryReceive =>
      let (sample?, later) := timing.surroundings.tryReceive feed
      (.found sample?, later)
  | receive patience =>
      let (answer?, later) := timing.surroundings.receive patience feed
      (.received answer?, later)
  | receiveTimeout timeout =>
      let (answer, later) := timing.surroundings.receiveTimeout timeout feed
      (.waited answer, later)
  | observe window =>
      let (observation, later) := timing.surroundings.observe window feed
      (.observed observation, later)

end Demand

/-- The totals of an observation are those of the samples that it handed out. -/
structure Observation.Exact (observation : Observation) : Prop where
  accepted : observation.totals.accepted = observation.seen.length
  total : observation.totals.accepted = observation.totals.perSensor.total
  share : ∀ handle : Handle, observation.totals.perSensor.count handle =
    observation.seen.countP fun sample => sample.sensor = handle
  entries : observation.totals.perSensor.Sound
  /-- No number exceeds that of the samples. -/
  bounded : ∀ handle : Handle,
    observation.totals.perSensor.count handle ≤ observation.seen.length

/-- What a response says of the channel that the call left behind. -/
structure Demand.Answered (demand : Demand) (timing : Feed.Timing) (feed : Feed)
    (response : Response) (later : Feed) : Prop where
  stopped : response.error? = some .streamStopped →
    later.channel.senderAlive = false ∧ later.channel.pending = []
  timeout : response.error? = some .timeout →
    later.channel.senderAlive = true ∧ later.channel.pending = []
  error : ∀ error : ClientError, response.error? = some error →
    error = .streamStopped ∨ error = .timeout ∧ ∃ timeout : Span, demand = .receiveTimeout timeout
  /-- A call without a time limit goes on as long as something may come. -/
  waiting : response = .received none →
    later.channel.senderAlive = true ∧ later.channel.pending = []
  missing : response = .found none → later = feed ∧ later.channel.pending = []
  exact : ∀ observation : Observation, response = .observed observation → observation.Exact
  early : ∀ window : Span, demand = .observe window →
    0 < timing.surroundings.leftover window.nanoseconds feed →
      later.channel.senderAlive = false ∧ later.channel.pending = []
  instant : ∀ window : Span, demand = .observe window → window.nanoseconds = 0 →
    response.handed = [] ∧ later = feed

namespace Demand

theorem answer?_samples (arrival : Channel.Arrival) :
    (arrival.answer?.bind Except.toOption).toList = arrival.samples := by
  cases arrival <;> rfl

theorem toExcept_samples (arrival : Channel.Arrival) :
    arrival.toExcept.toOption.toList = arrival.samples := by
  cases arrival <;> rfl

theorem sample?_samples (arrival : Channel.Arrival) :
    arrival.sample?.toList = arrival.samples := by
  cases arrival <;> rfl

/-- What a call keeps, it keeps with what it hands out. -/
theorem keeps_serve {timing : Feed.Timing} {holds : List StreamedSample → Feed → Prop}
    (keeps : timing.surroundings.Keeps holds) (demand : Demand) {feed : Feed}
    {handed : List StreamedSample} (held : holds handed feed) :
    holds (handed ++ (demand.serve timing feed).1.handed) (demand.serve timing feed).2 := by
  cases demand with
  | tryReceive =>
      have polled := keeps.poll held
      rw [← sample?_samples] at polled
      exact polled
  | receive patience =>
      have waited := keeps.receiveWithin patience held
      rw [← answer?_samples] at waited
      exact waited
  | receiveTimeout timeout =>
      have waited := keeps.receiveWithin timeout.nanoseconds held
      rw [← toExcept_samples] at waited
      exact waited
  | observe window => exact keeps.collect window.nanoseconds held

theorem exact_observe {World : Type} (surroundings : Surroundings World) (window : Span)
    (world : World) : (surroundings.observe window world).1.Exact where
  accepted := Totals.accepted_ofSamples _
  total := Totals.total_ofSamples _
  share := Totals.count_ofSamples _
  entries := Totals.sound_ofSamples _
  bounded handle := by
    have below := Tally.count_le_total (surroundings.observe window world).1.totals.perSensor handle
    have counted : (surroundings.observe window world).1.totals.accepted =
        (surroundings.observe window world).1.totals.perSensor.total := Totals.total_ofSamples _
    rw [← counted] at below
    exact Nat.le_trans below (Nat.le_of_eq (Totals.accepted_ofSamples _))

/-- A call that waited and found no sample would find the same again. -/
theorem receive_of_waited {timing : Feed.Timing} {budget : Nat} {feed : Feed}
    {arrival : Channel.Arrival} (bare : arrival.samples = [])
    (found : (timing.surroundings.receiveWithin budget feed).arrival = arrival) :
    (timing.surroundings.receiveWithin budget feed).world.channel.receive.1 = arrival := by
  subst found
  exact timing.surroundings.receive_receiveWithin (fun _ => rfl) budget feed bare

theorem stopped_of_waited {timing : Feed.Timing} {budget : Nat} {feed : Feed}
    (found : (timing.surroundings.receiveWithin budget feed).arrival = .stopped) :
    (timing.surroundings.receiveWithin budget feed).world.channel.senderAlive = false ∧
      (timing.surroundings.receiveWithin budget feed).world.channel.pending = [] :=
  Channel.receive_eq_stopped_iff.1 (receive_of_waited rfl found)

theorem nothing_of_waited {timing : Feed.Timing} {budget : Nat} {feed : Feed}
    (found : (timing.surroundings.receiveWithin budget feed).arrival = .nothing) :
    (timing.surroundings.receiveWithin budget feed).world.channel.senderAlive = true ∧
      (timing.surroundings.receiveWithin budget feed).world.channel.pending = [] :=
  Channel.receive_eq_nothing_iff.1 (receive_of_waited rfl found)

theorem answered_tryReceive (timing : Feed.Timing) (feed : Feed) :
    tryReceive.Answered timing feed (tryReceive.serve timing feed).1
      (tryReceive.serve timing feed).2 where
  stopped := nofun
  timeout := nofun
  error := nofun
  waiting := nofun
  missing missed := by
    have bare : feed.channel.receive.1.samples = [] := by
      rw [← sample?_samples]
      exact congrArg Option.toList (Response.found.inj missed)
    have same := Channel.receive_of_bare bare
    change { feed with channel := feed.channel.receive.2 } = feed ∧
      feed.channel.receive.2.pending = []
    rw [same]
    exact ⟨rfl, Channel.bare_iff.1 bare⟩
  exact := nofun
  early := nofun
  instant := nofun

theorem answered_receive (patience : Nat) (timing : Feed.Timing) (feed : Feed) :
    (receive patience).Answered timing feed ((receive patience).serve timing feed).1
      ((receive patience).serve timing feed).2 := by
  have stopped := @stopped_of_waited timing patience feed
  have nothing := @nothing_of_waited timing patience feed
  simp only [serve, Surroundings.receive]
  generalize timing.surroundings.receiveWithin patience feed = reception at stopped nothing ⊢
  rcases reception with ⟨_ | _ | _, left, later⟩
  · constructor <;> exact nofun
  · constructor
    case waiting => exact fun _ => nothing rfl
    all_goals exact nofun
  · constructor
    case stopped => exact fun _ => stopped rfl
    case error =>
      rintro _ ⟨⟩
      exact .inl rfl
    all_goals exact nofun

theorem answered_receiveTimeout (timeout : Span) (timing : Feed.Timing) (feed : Feed) :
    (receiveTimeout timeout).Answered timing feed ((receiveTimeout timeout).serve timing feed).1
      ((receiveTimeout timeout).serve timing feed).2 := by
  have stopped := @stopped_of_waited timing timeout.nanoseconds feed
  have nothing := @nothing_of_waited timing timeout.nanoseconds feed
  simp only [serve, Surroundings.receiveTimeout]
  generalize timing.surroundings.receiveWithin timeout.nanoseconds feed = reception
    at stopped nothing ⊢
  rcases reception with ⟨_ | _ | _, left, later⟩
  · constructor <;> exact nofun
  · constructor
    case timeout => exact fun _ => nothing rfl
    case error =>
      rintro _ ⟨⟩
      exact .inr ⟨rfl, timeout, rfl⟩
    all_goals exact nofun
  · constructor
    case stopped => exact fun _ => stopped rfl
    case error =>
      rintro _ ⟨⟩
      exact .inl rfl
    all_goals exact nofun

theorem answered_observe (window : Span) (timing : Feed.Timing) (feed : Feed) :
    (observe window).Answered timing feed ((observe window).serve timing feed).1
      ((observe window).serve timing feed).2 where
  stopped := nofun
  timeout := nofun
  error := nofun
  waiting := nofun
  missing := nofun
  exact := by
    rintro _ ⟨⟩
    exact exact_observe timing.surroundings window feed
  early := by
    rintro _ ⟨⟩ ahead
    have early := (timing.surroundings.stoppedEarly_iff window.nanoseconds feed).2 ahead
    exact Channel.receive_eq_stopped_iff.1 (timing.surroundings.receive_of_stoppedEarly early)
  instant := by
    rintro _ ⟨⟩ none
    simp only [serve, Surroundings.observe, none, Surroundings.collect_zero, Response.handed,
      and_self]

theorem answered_serve (demand : Demand) (timing : Feed.Timing) (feed : Feed) :
    demand.Answered timing feed (demand.serve timing feed).1 (demand.serve timing feed).2 := by
  cases demand with
  | tryReceive => exact answered_tryReceive timing feed
  | receive patience => exact answered_receive patience timing feed
  | receiveTimeout timeout => exact answered_receiveTimeout timeout timing feed
  | observe window => exact answered_observe window timing feed

end Demand

/-! ## Any mix of calls -/

/-- A feed, and what its consumer was handed so far. -/
structure Delivery where
  feed : Feed
  handed : List StreamedSample

namespace Delivery

def opened (capacity : Option Nat) : Delivery :=
  ⟨.opened capacity, []⟩

/-- What happens next: something at the sending end between two calls, or a call. -/
inductive Turn where
  | send (sample : StreamedSample)
  | disconnect
  | call (demand : Demand) (timing : Feed.Timing)

def next (delivery : Delivery) : Turn → Delivery
  | .send sample => { delivery with feed := delivery.feed.send sample }
  | .disconnect => { delivery with feed := delivery.feed.disconnect }
  | .call demand timing =>
      let (response, feed) := demand.serve timing delivery.feed
      ⟨feed, delivery.handed ++ response.handed⟩

def run (delivery : Delivery) (turns : List Turn) : Delivery :=
  turns.foldl next delivery

theorem run_append (delivery : Delivery) (before after : List Turn) :
    delivery.run (before ++ after) = (delivery.run before).run after :=
  List.foldl_append

theorem run_keeps {holds : List StreamedSample → Feed → Prop} (invariant : Feed.Invariant holds)
    {delivery : Delivery} (turns : List Turn) (held : holds delivery.handed delivery.feed) :
    holds (delivery.run turns).handed (delivery.run turns).feed := by
  induction turns generalizing delivery with
  | nil => exact held
  | cons turn later ih =>
      refine @ih (delivery.next turn) ?_
      cases turn with
      | send sample => exact invariant.send sample held
      | disconnect => exact invariant.disconnect held
      | call demand timing => exact demand.keeps_serve (invariant.keeps timing) held

/-- What becomes of the samples that are put into a channel while its consumer makes these
calls. -/
structure Faultless (capacity : Option Nat) (turns : List Turn) : Prop where
  parts : ((opened capacity).run turns).handed ++
      ((opened capacity).run turns).feed.channel.pending =
    ((opened capacity).run turns).feed.sent
  /-- What is sent while the sending end lives and there is room is put in. -/
  taken : ∀ (before after : List Turn) (sample : StreamedSample),
    turns = before ++ .send sample :: after →
      ((opened capacity).run before).feed.channel.senderAlive = true →
        ((opened capacity).run before).feed.channel.isFull = false →
          ((opened capacity).run (before ++ [.send sample])).feed.sent =
            ((opened capacity).run before).feed.sent ++ [sample]
  /-- Nothing is put in after the sending end went away. -/
  closed : ∀ before after : List Turn, turns = before ++ after →
    ((opened capacity).run before).feed.channel.senderAlive = false →
      ((opened capacity).run turns).feed.sent = ((opened capacity).run before).feed.sent
  answered : ∀ (before after : List Turn) (demand : Demand) (timing : Feed.Timing),
    turns = before ++ .call demand timing :: after →
      demand.Answered timing ((opened capacity).run before).feed
        (demand.serve timing ((opened capacity).run before).feed).1
        (demand.serve timing ((opened capacity).run before).feed).2

/-- Whatever the calls, their limits and what the sending end does meanwhile, each sample that is
put in is handed out once or still pending, in order, and every call says how it was. -/
theorem faultless_run (capacity : Option Nat) (turns : List Turn) :
    Faultless capacity turns where
  parts := run_keeps Feed.invariant_parts turns rfl
  taken before after sample _ alive room := by
    have attached : ((opened capacity).run before).feed.Attached :=
      run_keeps Feed.invariant_attached before rfl
    rw [run_append]
    exact Feed.sent_send attached alive room sample
  closed before after split gone := by
    rw [split, run_append]
    exact (run_keeps (Feed.invariant_over _) after ⟨gone, rfl⟩).sent
  answered before _ demand timing _ :=
    Demand.answered_serve demand timing ((opened capacity).run before).feed

end Delivery

end SensorStream
