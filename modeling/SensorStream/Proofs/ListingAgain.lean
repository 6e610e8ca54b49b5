import SensorStream.Proofs.ListingTurns

/-!
# Listing once more

The last event of a listing goes into the queue before the flag is taken back, so whoever has
taken this event may still find the flag set and be refused.  But the listing has nothing left
to publish and waits for nobody: three steps at most, and the flag is free.
-/

namespace SensorStream

theorem Event.progress_inj {fraction other : Float32}
    (same : Event.progress fraction = .progress other) : fraction = other := by
  cases same
  rfl

namespace Hub

variable {System : Type} {hub later : Hub System} {total steps : Nat} {answers : List Answer}
variable {published events : List Event}

/-! ## A listing that has published everything -/

/-- The listing announces that the whole is reached after everything else. -/
theorem announced_of_whole (bound : total ≤ 2 ^ 24) (within : answers.length ≤ total)
    (begun : published <+: announcements total answers) (whole : .progress 1 ∈ published) :
    answers.length = total ∧ published = announcements total answers := by
  have reached : ∃ done : Nat, 0 < done ∧ done ≤ answers.length ∧
      Event.progress 1 = .progress (fraction done total) := by
    rcases mem_announcements (begun.subset whole) with ⟨sensor, found⟩ | reached
    · cases found
    · exact reached
  rcases reached with ⟨done, first, last, same⟩
  have some : 0 < total := Nat.lt_of_lt_of_le first (Nat.le_trans last within)
  have all : answers.length = total := by
    rcases Nat.lt_or_ge done total with short | complete
    -- Up to the bound, no part of the whole is rounded to the whole.
    · have less := not_one_le_fraction first short bound
      rw [← Event.progress_inj same] at less
      exact absurd (by decide) less
    · exact Nat.le_antisymm within (Nat.le_trans complete last)
  refine ⟨all, ?_⟩
  rcases announcements_of_all some bound all with ⟨earlier, announced, parts⟩
  rw [announced] at begun ⊢
  rcases List.prefix_concat_iff.1 begun with same | before
  · exact same
  · exact absurd (by decide) (parts 1 (before.subset whole))

/-- What is left to do when everything is published. -/
inductive Spent (total : Nat) : Lister → Prop where
  | goingOn {index : Nat} (last : index + 1 = total) : Spent total (.publishing index [])
  | exhausting : Spent total (.scanning total)
  | finishing : Spent total .finishing
  | absent : Spent total .absent

theorem Regular.spent (regular : hub.Regular total steps answers published)
    (all : answers.length = total) (whole : published = announcements total answers) :
    Spent total hub.lister := by
  have announced := regular.announced
  cases lister : hub.lister with
  | scanning index =>
      rw [lister] at announced
      rw [← announced.1, all]
      exact .exhausting
  | publishing index events =>
      rw [lister, Announced, whole, List.append_right_eq_self] at announced
      rw [announced.2]
      exact .goingOn (announced.1.symm.trans all)
  | finishing => exact .finishing
  | absent => exact .absent

variable [Backend System]

/-- Nothing more is published, and every step leads nearer to the end. -/
theorem Works.of_spent (spent : Spent hub.systems.length hub.lister)
    (works : hub.Works events later) :
    events = [] ∧ slack later.lister + 1 = slack hub.lister ∧
      Spent later.systems.length later.lister := by
  cases works with
  | step step =>
      cases step with
      | ask scanning next =>
          rw [scanning] at spent
          cases spent
          rw [List.getElem?_eq_none (Nat.le_refl _)] at next
          cases next
      | goOn published =>
          rw [published] at spent ⊢
          cases spent with
          | goingOn last => exact ⟨rfl, rfl, last ▸ .exhausting⟩
      | exhaust scanning => exact ⟨rfl, by rw [scanning]; rfl, .finishing⟩
      | finish finishing => exact ⟨rfl, by rw [finishing]; rfl, .absent⟩
      | publish publishing | lose publishing | refuse publishing =>
          rw [publishing] at spent
          cases spent
  | slip publishing =>
      rw [publishing] at spent
      cases spent

/-- And there is a next step until the end is reached. -/
theorem Spent.exists_works (spent : Spent hub.systems.length hub.lister)
    (live : hub.lister.isLive = true) : ∃ later : Hub System, hub.Works [] later := by
  generalize stage : hub.lister = lister at spent live
  cases spent with
  | goingOn => exact ⟨_, .step (.goOn stage)⟩
  | exhausting => exact ⟨_, .step (.exhaust stage (List.getElem?_eq_none (Nat.le_refl _)))⟩
  | finishing => exact ⟨_, .step (.finish stage)⟩
  | absent => cases live

end Hub

namespace ListingCall

/-- The call is over. -/
def isOver : ListingCall → Bool
  | list (.answered _) => true
  | shutdown .returned => true
  | _ => false

end ListingCall

namespace Hall

variable {System : Type} {hall : Hall System} {number : Nat} {stage : Lister}

/-! ## Whoever has taken the last event -/

/-- The last event of the latest listing was taken out of the queue. -/
structure Concluded (hall : Hall System) (number : Nat) (stage : Lister) : Prop where
  listing : hall.rota.listings[number]? = some stage
  latest : number + 1 = hall.rota.listings.length
  taken : (some number, .progress 1) ∈ hall.entered.take hall.left.length

theorem Concluded.spent (concluded : hall.Concluded number stage) (orderly : hall.Orderly)
    (bound : hall.rota.hub.systems.length ≤ 2 ^ 24) :
    Hub.Spent hall.rota.hub.systems.length stage := by
  rcases orderly.announced number stage concluded.listing with ⟨steps, answers, regular⟩
  have whole : .progress 1 ∈ publishedBy number hall.entered :=
    List.mem_filterMap.2 ⟨_, List.mem_of_mem_take concluded.taken, if_pos rfl⟩
  rcases Hub.announced_of_whole bound regular.answered regular.published_begins whole with
    ⟨all, published⟩
  exact regular.spent all published

section Renewable

variable [Backend System]

/-- How a call fares that comes to claim the listing after that, while nobody else has claimed
it. -/
structure Renewable (hall : Hall System) (stage : Lister) : Prop where
  /-- The flag is still set if the listing is not over, -/
  flag : hall.rota.hub.listing = stage.isLive
  /-- and then the call is refused; -/
  refused : stage.isLive = true → ∀ {caller : Nat} {rota : Rota System} {next : ListingCall}
    {takes : List Event}, ListingCall.Step hall.rota caller (.list .claiming) rota next takes →
      next = .list (.answered (.error ListingCall.busy))
  /-- otherwise it is accepted. -/
  accepted : stage.isLive = false → ∀ {caller : Nat} {rota : Rota System} {next : ListingCall}
    {takes : List Event}, ListingCall.Step hall.rota caller (.list .claiming) rota next takes →
      next = .list .locking
  /-- The listing publishes nothing more, whatever the others do, and each of its steps is one
  of the last three. -/
  few : Hub.slack stage ≤ 3
  silent : ∀ {events : List Event} {hub : Hub System}, (hall.view stage).Works events hub →
    events = [] ∧ Hub.slack hub.lister + 1 = Hub.slack stage
  /-- It need not wait for anybody, and when it is left to itself, the flag is free. -/
  ready : stage.isLive = true → ∃ hub : Hub System, (hall.view stage).Works [] hub
  free : ∃ later : Hall System, hall.Leads later ∧ later.calls = hall.calls ∧
    later.entered = hall.entered ∧ later.left = hall.left ∧ later.rota.hub.listing = false

theorem Leads.trans {first middle last : Hall System} (before : first.Leads middle)
    (after : middle.Leads last) : first.Leads last := by
  induction after with
  | here => exact before
  | begin _ fresh ih => exact .begin ih fresh
  | act _ calling step ih => exact .act ih calling step
  | list _ listing works ih => exact .list ih listing works
  | others _ outside listing isShutDown effect ih =>
      exact .others ih outside listing isShutDown effect

/-- A listing that is left to itself comes to its end. -/
theorem exists_absent (found : hall.rota.listings[number]? = some stage)
    (spent : Hub.Spent hall.rota.hub.systems.length stage) :
    ∃ later : Hall System, hall.Leads later ∧ later.calls = hall.calls ∧
      later.entered = hall.entered ∧ later.left = hall.left ∧
      later.rota.listings = hall.rota.listings.set number .absent := by
  -- The induction is on the steps that the listing has still to take.
  generalize distance : Hub.slack stage = steps
  induction steps generalizing hall stage with
  | zero =>
      cases spent with
      | absent =>
          rcases List.getElem?_eq_some_iff.1 found with ⟨within, same⟩
          exact ⟨hall, .here, rfl, rfl, rfl, by rw [← same, List.set_getElem_self]⟩
      | _ => cases distance
  | succ steps ih =>
      have live : stage.isLive = true := by
        cases stage with
        | absent => cases distance
        | _ => rfl
      have begun : Hub.Spent (hall.view stage).systems.length (hall.view stage).lister := spent
      rcases begun.exists_works live with ⟨hub, works⟩
      rcases works.of_spent begun with ⟨_, nearer, still⟩
      have onward := Leads.list .here found works
      have within := (List.getElem?_eq_some_iff.1 found).1
      have reached : (hall.list number hub []).rota.listings[number]? = some hub.lister :=
        List.getElem?_set_self within
      have closer : Hub.slack hub.lister = steps :=
        Nat.add_right_cancel (nearer.trans distance)
      rcases ih reached still closer with ⟨later, leads, calls, entered, left, listings⟩
      refine ⟨later, onward.trans leads, calls, ?_, left, ?_⟩
      · rw [entered]
        exact List.append_nil _
      · rw [listings]
        exact List.set_set ..

end Renewable

/-- While no call has claimed the listing, the flag is set for the latest one. -/
theorem Orderly.listing_eq (orderly : hall.Orderly)
    (found : hall.rota.listings[number]? = some stage)
    (latest : number + 1 = hall.rota.listings.length)
    (alone : ∀ call ∈ hall.calls, call.isClaimant = false) :
    hall.rota.hub.listing = stage.isLive := by
  have claimed := orderly.claimed
  have nobody : hall.calls.countP ListingCall.isClaimant = 0 :=
    List.countP_eq_zero.2 fun call member => by simp [alone call member]
  rw [nobody, Nat.zero_add] at claimed
  cases live : stage.isLive with
  | true => exact orderly.listing_of_live found live
  | false =>
      have none : hall.rota.listings.countP Lister.isLive = 0 := by
        rw [List.countP_eq_zero]
        intro other member running
        rcases List.getElem?_of_mem member with ⟨place, listed⟩
        have same : place = number := by
          have last := orderly.latest place other listed running
          omega
        rw [same, found] at listed
        cases listed
        exact Bool.false_ne_true (live.symm.trans running)
      rw [none] at claimed
      exact Bool.toNat_eq_zero.1 claimed.symm

theorem Orderly.renewable [Backend System] (orderly : hall.Orderly)
    (bound : hall.rota.hub.systems.length ≤ 2 ^ 24) (concluded : hall.Concluded number stage)
    (alone : ∀ call ∈ hall.calls, call.isClaimant = false) : hall.Renewable stage := by
  have spent : Hub.Spent (hall.view stage).systems.length (hall.view stage).lister :=
    concluded.spent orderly bound
  have flag := orderly.listing_eq concluded.listing concluded.latest alone
  constructor
  case flag => exact flag
  case refused =>
    intro live caller rota next takes step
    exact (step.of_claimed (flag.trans live)).1
  case accepted =>
    intro ended caller rota next takes step
    exact (step.of_unclaimed (flag.trans ended)).1
  case few => cases stage <;> simp [Hub.slack]
  case silent =>
    intro events hub works
    rcases works.of_spent spent with ⟨nothing, nearer, _⟩
    exact ⟨nothing, nearer⟩
  case ready => exact spent.exists_works
  case free =>
    rcases exists_absent concluded.listing spent with
      ⟨later, leads, calls, entered, left, listings⟩
    have within := (List.getElem?_eq_some_iff.1 concluded.listing).1
    have absent : later.rota.listings[number]? = some .absent := by
      rw [listings, List.getElem?_set_self within]
    have last : number + 1 = later.rota.listings.length := by
      rw [listings, List.length_set]
      exact concluded.latest
    have free := (leads.orderly orderly).listing_eq absent last (calls ▸ alone)
    exact ⟨later, leads, calls, entered, left, free⟩

theorem Leads.count_eq [Backend System] {first : Hall System} (leads : first.Leads hall) :
    hall.rota.hub.systems.length = first.rota.hub.systems.length := by
  induction leads with
  | here => rfl
  | begin _ _ ih => exact ih
  | act _ _ step ih =>
      refine Eq.trans ?_ ih
      cases step.change with
      | beside _ _ _ outside => exact outside.count
      | claim | spawn | abandon => rfl
  | list _ _ works ih => exact works.worked.count.trans ih
  | others _ outside _ _ _ ih => exact outside.count.trans ih

/-- Whatever has happened on a hub with at most `2 ^ 24` back ends: once the last event of the
latest listing was taken, and no call has claimed the next one. -/
theorem renewable_of_concluded [Backend System] {systems : List System} {capacity : Nat}
    {hub : Hub System} (created : Hub.create systems capacity = .ok hub)
    (bound : systems.length ≤ 2 ^ 24) (leads : (start hub).Leads hall)
    (concluded : hall.Concluded number stage)
    (alone : ∀ call ∈ hall.calls, call.isClaimant = false) : hall.Renewable stage := by
  refine (leads.orderly (orderly_start created)).renewable ?_ concluded alone
  rw [leads.count_eq]
  cases Hub.eq_fresh_of_create created
  exact bound

/-- One back end, which lists no sensor. -/
def barren : Hub RehearsedBackend :=
  .fresh [⟨.simulated, .ok [], [], true⟩] 2

/-- The consumer has taken the only event of the first listing, which has not come to its end
yet. -/
def announced : Hall RehearsedBackend :=
  scene barren (.publishing 0 []) [.list (.answered (.ok ()))] [(some 0, .progress 1)]
    [.progress 1]

theorem leads_announced : (start barren).Leads announced := by
  have started := @leads_scene _ _ barren rfl rfl
  have asked := @Leads.list _ _ _ _ started 0 _ _ _ rfl (.step (.ask rfl rfl rfl))
  have published := @Leads.list _ _ _ _ asked 0 _ _ _ rfl (.step (.publish rfl rfl))
  have taken := @Leads.others _ _ _ _ published announced.rota.hub [] [.progress (Hub.fraction 1 1)]
    false ⟨rfl, rfl, id⟩ rfl rfl ⟨rfl, id, rfl, rfl⟩
  change (start barren).Leads (scene barren (.publishing 0 []) [.list (.answered (.ok ()))]
    [(some 0, .progress (Hub.fraction 1 1))] [.progress (Hub.fraction 1 1)]) at taken
  rw [Hub.fraction_self Nat.one_pos (by decide)] at taken
  exact taken

theorem concluded_announced : announced.Concluded 0 (.publishing 0 []) :=
  ⟨rfl, rfl, List.mem_singleton_self _⟩

/-- Whoever has taken the last event of a listing may be refused when listing again, though the
hub is not shut down and nobody else lists. -/
theorem refused_after_last_event :
    ¬∀ (systems : List RehearsedBackend) (capacity : Nat) (hub : Hub RehearsedBackend)
        (hall later : Hall RehearsedBackend) (number : Nat) (stage : Lister)
        (result : Except ClientError Unit),
        Hub.create systems capacity = .ok hub → (start hub).Leads hall →
        hall.Concluded number stage → (∀ call ∈ hall.calls, call.isOver = true) →
        hall.Leads later → later.calls.length = hall.calls.length + 1 →
        later.rota.hub.isShutDown = false →
        later.calls[hall.calls.length]? = some (.list (.answered result)) →
          result ≠ .error ListingCall.busy := by
  intro accepted
  have calling := @Leads.begin _ _ _ announced .here (.list .looking) rfl
  have admitted := @Leads.act _ _ _ _ calling 1 _ _ _ _ rfl (.letIn rfl)
  have refused := @Leads.act _ _ _ _ admitted 1 _ _ _ _ rfl (.refuse rfl)
  have created : Hub.create barren.systems 2 = .ok barren := rfl
  exact accepted _ _ _ _ _ _ _ _ created leads_announced concluded_announced (by decide) refused
    rfl rfl rfl rfl

/-- That listing is over after three steps of its own, and then a call is accepted. -/
theorem renewable_of_announced :
    ∃ hall : Hall RehearsedBackend, (start barren).Leads hall ∧
      hall.rota.hub.listing = true ∧ hall.Renewable (.publishing 0 []) := by
  have created : Hub.create barren.systems 2 = .ok barren := rfl
  refine ⟨announced, leads_announced, rfl, ?_⟩
  exact renewable_of_concluded created (by decide) leads_announced concluded_announced (by decide)

end Hall

end SensorStream
