import SensorStream.Device.Rehearsed
import SensorStream.Device.Simulated
import SensorStream.Proofs.Holdings
import SensorStream.Proofs.HubUpkeep

/-!
# The links of a hub

A hub's users open links, give them up and shut the hub down, in any order.  A link is held
from the moment at which its handle was handed out until the handle was given up or the hub
was shut down.  Every handle is handed out once.
-/

namespace SensorStream

namespace Hub

variable {System : Type} [Backend System]

/-! ## Opening a link -/

section Acquire

variable {hub : Hub System} {sensor : Descriptor}

theorem acquire_of_shutDown (ended : hub.isShutDown = true) :
    hub.acquire sensor = (.error .sourceClosed, hub) := by
  rw [acquire, if_pos ended]

theorem acquire_of_unsupported (active : hub.isShutDown = false)
    (unsupported : ∀ system ∈ hub.systems, Backend.transport system ≠ sensor.transport) :
    hub.acquire sensor = (.error (.unsupportedTransport sensor.transport.key), hub) := by
  have astray : hub.route? sensor.transport = none := by
    rw [route?, List.findIdx?_eq_none_iff]
    intro system member
    simpa using unsupported system member
  rw [acquire, if_neg (by simp [active]), astray]

/-- The first back end with the transport of the sensor is asked to open a link under the
next handle, and no other; the link is held under that handle. -/
theorem acquire_of_first (active : hub.isShutDown = false) {before after : List System}
    {system : System} (systems : hub.systems = before ++ system :: after)
    (others : ∀ other ∈ before, Backend.transport other ≠ sensor.transport)
    (first : Backend.transport system = sensor.transport) :
    hub.acquire sensor =
      match Backend.openLink sensor hub.nextHandle hub.queue system with
      | (.error error, queue, later) =>
          (.error error,
            { hub.drawHandle.2 with queue := queue, systems := before ++ later :: after })
      | (.ok link, queue, later) =>
          (.ok hub.nextHandle,
            { hub.drawHandle.2 with queue := queue, systems := before ++ later :: after }.hold
              hub.nextHandle link) := by
  have none :
      before.findIdx? (fun other => Backend.transport other == sensor.transport) = none := by
    rw [List.findIdx?_eq_none_iff]
    intro other member
    simpa using others other member
  have route : hub.route? sensor.transport = some before.length := by
    rw [route?, systems, List.findIdx?_append, none, List.findIdx?_cons]
    simp [first]
  rw [acquire, if_neg (by simp [active]), route]
  simp only [drawHandle, openAt, systems]
  rw [List.getElem?_append_right (Nat.le_refl _), Nat.sub_self]
  simp only [List.getElem?_cons_zero]
  generalize Backend.openLink sensor hub.nextHandle hub.queue system = answer
  rcases answer with ⟨result, queue, later⟩
  cases result <;> simp

/-- Either no back end has the transport, or there is a first one that has. -/
theorem unsupported_or_first (hub : Hub System) (sensor : Descriptor) :
    (∀ system ∈ hub.systems, Backend.transport system ≠ sensor.transport) ∨
      ∃ (before after : List System) (system : System),
        hub.systems = before ++ system :: after ∧
          (∀ other ∈ before, Backend.transport other ≠ sensor.transport) ∧
          Backend.transport system = sensor.transport := by
  cases found : hub.systems.find? fun system => Backend.transport system == sensor.transport with
  | none =>
      refine .inl fun system member => ?_
      have differs := List.find?_eq_none.1 found system member
      simpa using differs
  | some system =>
      rcases List.find?_eq_some_iff_append.1 found with ⟨first, before, after, systems, others⟩
      refine .inr ⟨before, after, system, systems, fun other member => ?_, by simpa using first⟩
      simpa using others other member

end Acquire

/-! ## What the store keeps -/

/-- The store of links fits the history of the hub, and so many handles were drawn. -/
structure Stocked (hub : Hub System) (dealings : List Dealing) (drawn : Nat) : Prop where
  numbered : Numbered hub.nextHandle dealings drawn
  distinct : (hub.links.map Prod.fst).Nodup
  held : ∀ handle : Handle, handle ∈ hub.links.map Prod.fst ↔ Outstanding handle dealings
  shutDown_iff : hub.isShutDown = true ↔ .shutDown ∈ dealings
  closed : hub.isShutDown = true → hub.queue.closed = true ∧ hub.links = []

namespace Stocked

variable {hub later : Hub System} {dealings : List Dealing} {drawn : Nat}

omit [Backend System]

theorem create {systems : List System} {capacity : Nat}
    (created : Hub.create systems capacity = .ok hub) : hub.Stocked [] 0 := by
  cases eq_fresh_of_create created
  refine ⟨.begin, .nil, ?_, ?_, Bool.noConfusion⟩
  · intro handle
    constructor
    · nofun
    · rintro ⟨before, after, sensor, split, _⟩
      simp at split
  · simp [fresh]

theorem kept (stocked : hub.Stocked dealings drawn) (kept : hub.Kept later) :
    later.Stocked dealings drawn where
  numbered := by
    rw [kept.nextHandle]
    exact stocked.numbered
  distinct := by
    rw [kept.handles]
    exact stocked.distinct
  held := by
    rw [kept.handles]
    exact stocked.held
  shutDown_iff := by
    rw [kept.isShutDown]
    exact stocked.shutDown_iff
  closed := by
    intro ended
    rw [kept.isShutDown] at ended
    rcases stocked.closed ended with ⟨closed, empty⟩
    have handles := kept.handles
    rw [empty] at handles
    exact ⟨kept.closed closed, List.map_eq_nil_iff.1 handles⟩

theorem active_of_ongoing (stocked : hub.Stocked dealings drawn)
    (ongoing : .shutDown ∉ dealings) : hub.isShutDown = false := by
  rw [← Bool.not_eq_true, stocked.shutDown_iff]
  exact ongoing

/-- An entry that hands nothing out and gives nothing up. -/
theorem entered (stocked : hub.Stocked dealings drawn) {dealing : Dealing}
    (nothing : dealing.obtained? = none) (spares : ∀ handle, ¬dealing.GivesUp handle) :
    hub.Stocked (dealings ++ [dealing]) drawn where
  numbered := stocked.numbered.entered nothing
  distinct := stocked.distinct
  held := by
    intro handle
    rw [stocked.held, outstanding_concat, nothing]
    simp [spares]
  shutDown_iff := by
    have other : dealing ≠ .shutDown := by
      rintro rfl
      exact spares ⟨0⟩ trivial
    rw [stocked.shutDown_iff]
    simp [other.symm]
  closed := stocked.closed

/-- A handle is drawn. -/
theorem drawHandle (stocked : hub.Stocked dealings drawn)
    (asked : drawn < acquisitionsIn dealings) : hub.drawHandle.2.Stocked dealings (drawn + 1) :=
  { stocked with numbered := stocked.numbered.draw asked }

/-- A back end has done something to the queue and to itself, in a hub that is not shut
down. -/
theorem answered (stocked : hub.Stocked dealings drawn) (active : hub.isShutDown = false)
    (queue : EventQueue) (systems : List System) :
    { hub with queue := queue, systems := systems }.Stocked dealings drawn :=
  { stocked with
    closed := by
      intro ended
      cases active.symm.trans ended }

/-- A link is held under the handle that was drawn for it. -/
theorem obtained (stocked : hub.Stocked dealings drawn) (active : hub.isShutDown = false)
    (few : drawn + 1 < UInt64.size) (sensor : Descriptor) (link : Link) :
    (hub.drawHandle.2.hold hub.nextHandle link).Stocked
      (dealings ++ [.acquired sensor (.ok hub.nextHandle)]) (drawn + 1) := by
  have links : (hub.drawHandle.2.hold hub.nextHandle link).links.map Prod.fst =
      hub.links.map Prod.fst ++ [hub.nextHandle] := by
    simp [hold, Hub.drawHandle]
  constructor
  case numbered => exact stocked.numbered.obtained few sensor
  case distinct =>
    rw [links, List.nodup_append]
    refine ⟨stocked.distinct, List.pairwise_singleton _ _, ?_⟩
    intro handle member next drawn same
    rw [List.mem_singleton.1 drawn] at same
    have before := ((stocked.held handle).1 member).mem_handlesIn
    rw [same] at before
    exact UInt64.lt_irrefl _ (stocked.numbered.lt_next few _ before)
  case held =>
    intro handle
    rw [links, outstanding_concat, ← stocked.held, List.mem_append, List.mem_singleton]
    constructor
    · rintro (before | rfl)
      · exact .inr ⟨before, id⟩
      · exact .inl rfl
    · rintro (now | ⟨before, _⟩)
      · cases now
        exact .inr rfl
      · exact .inl before
  case shutDown_iff =>
    constructor
    · intro ended
      cases active.symm.trans ended
    · intro member
      rcases List.mem_append.1 member with earlier | now
      · cases active.symm.trans (stocked.shutDown_iff.2 earlier)
      · cases List.mem_singleton.1 now
  case closed =>
    intro ended
    cases active.symm.trans ended

/-- The link of a handle is given up. -/
theorem released (stocked : hub.Stocked dealings drawn) (handle : Handle) :
    (hub.letGo handle).Stocked (dealings ++ [.released handle (.ok ())]) drawn where
  numbered := stocked.numbered.entered rfl
  distinct := stocked.distinct.sublist (List.filter_sublist.map Prod.fst)
  held := by
    intro other
    rw [outstanding_concat, ← stocked.held other]
    constructor
    · intro member
      rcases List.mem_map.1 member with ⟨entry, kept, rfl⟩
      rcases List.mem_filter.1 kept with ⟨before, spared⟩
      exact .inr ⟨List.mem_map_of_mem before, fun same => of_decide_eq_true spared same.symm⟩
    · rintro (handed | ⟨before, spared⟩)
      · cases handed
      · rcases List.mem_map.1 before with ⟨entry, member, rfl⟩
        have kept : decide (entry.1 ≠ handle) = true :=
          decide_eq_true fun same => spared same.symm
        exact List.mem_map_of_mem (List.mem_filter.2 ⟨member, kept⟩)
  shutDown_iff := by
    rw [letGo, List.mem_append, ← stocked.shutDown_iff]
    simp
  closed := by
    intro ended
    rcases stocked.closed ended with ⟨closed, empty⟩
    exact ⟨closed, by simp [letGo, empty]⟩

/-- A hub that is shut down holds nothing. -/
theorem ended (numbered : Numbered hub.nextHandle dealings drawn)
    (ended : hub.isShutDown = true) (closed : hub.queue.closed = true) (empty : hub.links = []) :
    hub.Stocked (dealings ++ [.shutDown]) drawn where
  numbered := numbered.entered rfl
  distinct := by
    rw [empty]
    exact .nil
  held := by
    intro handle
    rw [outstanding_concat, empty]
    simp [Dealing.obtained?, Dealing.GivesUp]
  shutDown_iff := by simp [ended]
  closed := fun _ => ⟨closed, empty⟩

/-- All links are given up. -/
theorem shutDown [Backend System] (stocked : hub.Stocked dealings drawn) :
    hub.shutdown.Stocked (dealings ++ [.shutDown]) drawn := by
  rw [Hub.shutdown]
  split
  · rename_i already
    rcases stocked.closed already with ⟨closed, empty⟩
    exact .ended stocked.numbered already closed empty
  · have emptied : hub.markShutDown.closeQueue.letAllGo.Stocked (dealings ++ [.shutDown]) drawn :=
      .ended stocked.numbered rfl hub.queue.closed_close rfl
    exact emptied.kept (kept_calm _)

section Requests

variable [Backend System]

theorem acquire_of_first (stocked : hub.Stocked dealings drawn) {sensor : Descriptor}
    (few : acquisitionsIn dealings + 1 < UInt64.size) (active : hub.isShutDown = false)
    {before after : List System} {system : System}
    (systems : hub.systems = before ++ system :: after)
    (others : ∀ other ∈ before, Backend.transport other ≠ sensor.transport)
    (first : Backend.transport system = sensor.transport) :
    (hub.acquire sensor).2.Stocked (dealings ++ [.acquired sensor (hub.acquire sensor).1])
      (drawn + 1) := by
  rw [Hub.acquire_of_first active systems others first]
  generalize Backend.openLink sensor hub.nextHandle hub.queue system = answer
  rcases answer with ⟨result, queue, later⟩
  cases result with
  | error error =>
      have asked : hub.Stocked (dealings ++ [.acquired sensor (.error error)]) drawn :=
        stocked.entered rfl fun _ => id
      have drew := asked.drawHandle (by
        rw [acquisitionsIn_concat]
        exact Nat.lt_succ_of_le stocked.numbered.few)
      exact drew.answered active queue _
  | ok link =>
      have below := stocked.numbered.drawn_lt few
      exact (stocked.obtained active below sensor link).answered active queue _

theorem acquire (stocked : hub.Stocked dealings drawn) (sensor : Descriptor)
    (few : acquisitionsIn dealings + 1 < UInt64.size) :
    ∃ more : Nat, drawn ≤ more ∧ (hub.acquire sensor).2.Stocked
      (dealings ++ [.acquired sensor (hub.acquire sensor).1]) more := by
  cases active : hub.isShutDown with
  | true =>
      rw [acquire_of_shutDown active]
      exact ⟨drawn, Nat.le_refl drawn, stocked.entered rfl fun _ => id⟩
  | false =>
      rcases hub.unsupported_or_first sensor with
          unsupported | ⟨before, after, system, systems, others, first⟩
      · rw [acquire_of_unsupported active unsupported]
        exact ⟨drawn, Nat.le_refl drawn, stocked.entered rfl fun _ => id⟩
      · exact ⟨drawn + 1, Nat.le_succ drawn,
          stocked.acquire_of_first few active systems others first⟩

omit [Backend System] in
theorem release (stocked : hub.Stocked dealings drawn) (handle : Handle) :
    (hub.release handle).2.Stocked (dealings ++ [.released handle (hub.release handle).1])
      drawn := by
  rw [Hub.release]
  split
  · exact stocked.released handle
  · exact stocked.entered rfl fun _ => id

theorem wait (stocked : hub.Stocked dealings drawn) :
    (EventSource.wait hub).2.Stocked
      (dealings ++ (EventSource.wait hub).1.event?.toList.map .took) drawn := by
  have waited := stocked.kept hub.kept_wait
  cases (EventSource.wait hub).1.event? with
  | none =>
      rw [Option.toList_none, List.map_nil, List.append_nil]
      exact waited
  | some event => exact waited.entered rfl fun _ => id

end Requests

end Stocked

end Hub

/-! ## What a user of a hub can rely on -/

section Served

variable {System : Type} [Backend System] {first ledger : Ledger (Hub System)}

/-- Whatever is asked of a hub, its store fits its history. -/
theorem Served.stocked (served : Served first ledger) {drawn : Nat}
    (stocked : first.source.Stocked first.dealings drawn)
    (few : acquisitionsIn ledger.dealings < UInt64.size) :
    ∃ more : Nat, drawn ≤ more ∧ ledger.source.Stocked ledger.dealings more := by
  induction served with
  | begin => exact ⟨drawn, Nat.le_refl drawn, stocked⟩
  | @list ledger _ ih =>
      rcases ih (acquisitionsIn_lt_of_append few) with ⟨more, grown, stocked⟩
      exact ⟨more, grown, (stocked.kept ledger.source.kept_list).entered rfl fun _ => id⟩
  | wait _ ih =>
      rcases ih (acquisitionsIn_lt_of_append few) with ⟨more, grown, stocked⟩
      exact ⟨more, grown, stocked.wait⟩
  | @acquire ledger _ sensor ih =>
      have asked : acquisitionsIn ledger.dealings + 1 < UInt64.size := by
        change acquisitionsIn (ledger.dealings ++ [_]) < UInt64.size at few
        rw [acquisitionsIn_concat] at few
        exact few
      rcases ih (Nat.lt_of_succ_lt asked) with ⟨more, grown, stocked⟩
      rcases stocked.acquire sensor asked with ⟨most, drew, obtained⟩
      exact ⟨most, Nat.le_trans grown drew, obtained⟩
  | release _ handle ih =>
      rcases ih (acquisitionsIn_lt_of_append few) with ⟨more, grown, stocked⟩
      exact ⟨more, grown, stocked.release handle⟩
  | shutdown _ ih =>
      rcases ih (acquisitionsIn_lt_of_append few) with ⟨more, grown, stocked⟩
      exact ⟨more, grown, stocked.shutDown⟩
  | advance _ passes ih =>
      rcases Option.map_eq_some_iff.1 passes with ⟨elapsed, advances, rfl⟩
      rcases ih few with ⟨more, grown, stocked⟩
      exact ⟨more, grown, stocked.kept (Hub.kept_advance advances)⟩

/-- A back end that is asked to open a link takes the counter of handles further for good. -/
theorem Served.nextHandle_lt {drawn : Nat} (stocked : first.source.Stocked first.dealings drawn)
    {earlier : Ledger (Hub System)} {sensor : Descriptor} (came : Served first earlier)
    (ongoing : .shutDown ∉ earlier.dealings)
    (offered : ∃ system ∈ earlier.source.systems, Backend.transport system = sensor.transport)
    (went : Served (EventSource.acquire sensor earlier).2 ledger)
    (few : acquisitionsIn ledger.dealings + 1 < UInt64.size) :
    earlier.source.nextHandle.number < ledger.source.nextHandle.number := by
  have asked : acquisitionsIn earlier.dealings + 1 ≤ acquisitionsIn ledger.dealings := by
    have more := acquisitionsIn_mono went.dealings_extend
    change acquisitionsIn (earlier.dealings ++ [_]) ≤ _ at more
    rw [acquisitionsIn_concat] at more
    exact more
  have within : acquisitionsIn earlier.dealings + 1 < UInt64.size :=
    Nat.lt_of_le_of_lt asked (Nat.lt_of_succ_lt few)
  rcases came.stocked stocked (Nat.lt_of_succ_lt within) with ⟨before, _, stockedBefore⟩
  rcases earlier.source.unsupported_or_first sensor with
      unsupported | ⟨_, _, _, systems, others, first⟩
  · rcases offered with ⟨system, member, matching⟩
    exact absurd matching (unsupported system member)
  · have drew := stockedBefore.acquire_of_first within (stockedBefore.active_of_ongoing ongoing)
      systems others first
    rcases went.stocked drew (Nat.lt_of_succ_lt few) with ⟨after, grown, stockedAfter⟩
    have below := stockedAfter.numbered.drawn_lt few
    exact stockedBefore.numbered.next_lt_next stockedAfter.numbered grown below

/-- What holds of the links after the dealings of the ledger, and of the next request. -/
structure LinkLaws (first ledger : Ledger (Hub System)) : Prop where
  /-- The links that are held are those that were handed out and not given up since. -/
  held : ∀ handle : Handle,
    ledger.source.holds handle = true ↔ Outstanding handle ledger.dealings
  distinct : (ledger.source.links.map Prod.fst).Nodup
  ascending : (handlesIn ledger.dealings).Pairwise fun earlier later =>
    earlier.number < later.number
  positive : ∀ handle ∈ handlesIn ledger.dealings, 1 ≤ handle.number
  unsupported : ∀ {sensor : Descriptor}, .shutDown ∉ ledger.dealings →
    (∀ system ∈ ledger.source.systems, Backend.transport system ≠ sensor.transport) →
      ledger.source.acquire sensor =
        (.error (.unsupportedTransport sensor.transport.key), ledger.source)
  /-- The first back end with the transport of the sensor is asked, under a handle that is
  new, and a link that it opens is held under this handle. -/
  opened : ∀ {sensor : Descriptor} {before after : List System} {system : System},
    .shutDown ∉ ledger.dealings → ledger.source.systems = before ++ system :: after →
    (∀ other ∈ before, Backend.transport other ≠ sensor.transport) →
    Backend.transport system = sensor.transport →
    acquisitionsIn ledger.dealings + 1 < UInt64.size →
      (∀ used ∈ handlesIn ledger.dealings, used.number < ledger.source.nextHandle.number) ∧
      match Backend.openLink sensor ledger.source.nextHandle ledger.source.queue system with
      | (.error error, _, later) =>
          (ledger.source.acquire sensor).1 = .error error ∧
            (ledger.source.acquire sensor).2.links = ledger.source.links ∧
            (ledger.source.acquire sensor).2.systems = before ++ later :: after
      | (.ok link, _, later) =>
          (ledger.source.acquire sensor).1 = .ok ledger.source.nextHandle ∧
            (ledger.source.acquire sensor).2.links =
              ledger.source.links ++ [(ledger.source.nextHandle, link)] ∧
            (ledger.source.acquire sensor).2.systems = before ++ later :: after
  /-- A handle that a back end was asked to open a link under is used up, whether the link
  was opened or not. -/
  used : ∀ {earlier : Ledger (Hub System)} {sensor : Descriptor}, Served first earlier →
    .shutDown ∉ earlier.dealings →
    (∃ system ∈ earlier.source.systems, Backend.transport system = sensor.transport) →
    Served (EventSource.acquire sensor earlier).2 ledger →
    acquisitionsIn ledger.dealings + 1 < UInt64.size →
      earlier.source.nextHandle.number < ledger.source.nextHandle.number
  known : ∀ {handle : Handle}, Outstanding handle ledger.dealings →
    ledger.source.release handle = (.ok (), ledger.source.letGo handle)
  unknown : ∀ {handle : Handle}, ¬Outstanding handle ledger.dealings →
    ledger.source.release handle = (.error (.unknownHandle handle), ledger.source)
  /-- A hub that was shut down holds nothing, opens nothing and brings nothing. -/
  ended : .shutDown ∈ ledger.dealings →
    ledger.source.links = [] ∧
      (∀ sensor : Descriptor,
        ledger.source.acquire sensor = (.error .sourceClosed, ledger.source)) ∧
      ledger.source.list = (.error .sourceClosed, ledger.source) ∧
      ledger.source.poll.1 = .error .sourceClosed ∧ ledger.source.shutdown = ledger.source

/-- Whatever is asked of a hub, in whatever order, its store holds exactly the links that were
opened and not given up, under handles that are new each time. -/
theorem linkLaws_of_served {systems : List System} {capacity : Nat} {hub : Hub System}
    (created : Hub.create systems capacity = .ok hub) (served : Served (.start hub) ledger)
    (few : acquisitionsIn ledger.dealings < UInt64.size) : LinkLaws (.start hub) ledger := by
  have fresh : (Ledger.start hub).source.Stocked (Ledger.start hub).dealings 0 := .create created
  rcases served.stocked fresh few with ⟨drawn, _, stocked⟩
  constructor
  case held =>
    intro handle
    rw [Hub.holds_iff]
    exact stocked.held handle
  case distinct => exact stocked.distinct
  case ascending => exact stocked.numbered.ascending
  case positive =>
    intro handle member
    rw [UInt64.le_iff_toNat_le]
    exact (stocked.numbered.within handle member).1
  case unsupported =>
    intro sensor ongoing unsupported
    exact Hub.acquire_of_unsupported (stocked.active_of_ongoing ongoing) unsupported
  case opened =>
    intro sensor before after system ongoing systems others first few
    have below := stocked.numbered.drawn_lt few
    rw [Hub.acquire_of_first (stocked.active_of_ongoing ongoing) systems others first]
    refine ⟨stocked.numbered.lt_next below, ?_⟩
    generalize Backend.openLink sensor ledger.source.nextHandle ledger.source.queue system = answer
    rcases answer with ⟨result, queue, later⟩
    cases result <;> exact ⟨rfl, rfl, rfl⟩
  case used =>
    intro earlier sensor came ongoing offered went few
    exact came.nextHandle_lt fresh ongoing offered went few
  case known =>
    intro handle outstanding
    rw [Hub.release, if_pos (Hub.holds_iff.2 ((stocked.held handle).2 outstanding))]
  case unknown =>
    intro handle settled
    have unheld : ¬ledger.source.holds handle = true := by
      rw [Hub.holds_iff, stocked.held]
      exact settled
    rw [Hub.release, if_neg unheld]
  case ended =>
    intro ended
    have shut := stocked.shutDown_iff.2 ended
    rcases stocked.closed shut with ⟨closed, empty⟩
    refine ⟨empty, fun sensor => Hub.acquire_of_shutDown shut, ?_, ?_, ?_⟩
    · rw [Hub.list, if_pos shut]
    · have still := ledger.source.kept_calm.closed closed
      rw [Hub.poll, EventQueue.wait, if_pos still]
    · rw [Hub.shutdown, if_pos shut]

end Served

/-- Two back ends for the same transport, the first of which refuses once. -/
def reluctant : List RehearsedBackend :=
  [⟨.simulated, .ok [], [.error .refused], true⟩, ⟨.simulated, .ok [], [], true⟩]

/-- After a refusal two links are opened, and the first of them is given up. -/
theorem linkLaws_of_reluctant :
    ∃ (hub : Hub RehearsedBackend) (ledger : Ledger (Hub RehearsedBackend)),
      Hub.create reluctant 4 = .ok hub ∧ Served (.start hub) ledger ∧
        handlesIn ledger.dealings = [⟨2⟩, ⟨3⟩] ∧ ledger.source.links.map Prod.fst = [⟨3⟩] ∧
        LinkLaws (.start hub) ledger := by
  have created : Hub.create reluctant 4 = .ok _ := rfl
  have served (hub : Hub RehearsedBackend) : Served (Ledger.start hub) _ :=
    (((Served.begin.acquire SimulatedBackend.sensor).acquire SimulatedBackend.sensor).acquire
      SimulatedBackend.sensor).release ⟨2⟩
  refine ⟨_, _, created, served _, ?_, ?_, linkLaws_of_served created (served _) ?_⟩
  · decide +kernel
  · decide +kernel
  · decide +kernel

end SensorStream
