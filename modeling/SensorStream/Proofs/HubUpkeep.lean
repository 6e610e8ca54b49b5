import SensorStream.Hub.Source
import SensorStream.Proofs.QueueEffects

/-!
# What goes on in a hub by itself

Listing, waiting for events and the passing of time change the queue and what the links are
about to publish.  They leave alone which links are held, which handles are drawn, which
back ends there are and whether the hub is shut down; and a queue that is closed stays so.
-/

namespace SensorStream

namespace Generator

@[simp] theorem closed_elapse (span : Nat) (generator : Generator) (queue : EventQueue) :
    (generator.elapse span queue).2.closed = queue.closed := by
  rw [elapse]
  split
  · rw [publishNext]
    split
    · rfl
    · split
      · rfl
      · simp only
        split <;> exact queue.closed_publish _
  · rfl

end Generator

namespace Hub

variable {System : Type}

/-- A hub as it is created. -/
def fresh (systems : List System) (capacity : Nat) : Hub System where
  queue := .withCapacity capacity
  systems := systems
  listing := false
  lister := .absent
  links := []
  closedLinks := []
  nextHandle := ⟨1⟩
  isShutDown := false

theorem eq_fresh_of_create {systems : List System} {capacity : Nat} {hub : Hub System}
    (created : create systems capacity = .ok hub) : hub = fresh systems capacity := by
  rw [create] at created
  split at created
  · cases created
  · cases created
    rfl

/-! ## The hub's own work -/

/-- The links, the handles and the back ends are the same, and the hub is not opened again. -/
structure Kept (hub later : Hub System) : Prop where
  handles : later.links.map Prod.fst = hub.links.map Prod.fst
  nextHandle : later.nextHandle = hub.nextHandle
  systems : later.systems = hub.systems
  isShutDown : later.isShutDown = hub.isShutDown
  closed : hub.queue.closed = true → later.queue.closed = true

namespace Kept

theorem refl (hub : Hub System) : hub.Kept hub :=
  ⟨rfl, rfl, rfl, rfl, id⟩

theorem trans {first middle last : Hub System} (before : first.Kept middle)
    (after : middle.Kept last) : first.Kept last where
  handles := after.handles.trans before.handles
  nextHandle := after.nextHandle.trans before.nextHandle
  systems := after.systems.trans before.systems
  isShutDown := after.isShutDown.trans before.isShutDown
  closed := fun closed => after.closed (before.closed closed)

end Kept

theorem holds_iff {hub : Hub System} {handle : Handle} :
    hub.holds handle = true ↔ handle ∈ hub.links.map Prod.fst := by
  simp [holds]

theorem Kept.holds_eq {hub later : Hub System} (kept : hub.Kept later) (handle : Handle) :
    later.holds handle = hub.holds handle := by
  rw [Bool.eq_iff_iff, holds_iff, holds_iff, kept.handles]

variable [Backend System]

theorem kept_listStep? {hub next : Hub System} (steps : hub.listStep? = some next) :
    hub.Kept next := by
  rw [listStep?] at steps
  split at steps
  · cases steps
  · split at steps
    · cases steps
      exact ⟨rfl, rfl, rfl, rfl, id⟩
    · rcases Option.map_eq_some_iff.1 steps with ⟨result, _, rfl⟩
      exact ⟨rfl, rfl, rfl, rfl, id⟩
  · cases steps
    exact ⟨rfl, rfl, rfl, rfl, id⟩
  · rename_i event later _
    have closed := hub.queue.closed_publish event
    split at steps
    · cases steps
    · cases steps
      exact ⟨rfl, rfl, rfl, rfl, id⟩
    · rename_i publication queue _ _ published
      cases steps
      rw [published] at closed
      exact ⟨rfl, rfl, rfl, rfl, fun before => closed.trans before⟩
  · cases steps
    exact ⟨rfl, rfl, rfl, rfl, id⟩

theorem kept_listWithin (steps : Nat) (hub : Hub System) : hub.Kept (hub.listWithin steps) := by
  induction steps generalizing hub with
  | zero => exact .refl hub
  | succ steps ih =>
      rw [listWithin]
      split
      · exact .refl hub
      · rename_i next advanced
        exact (kept_listStep? advanced).trans (ih next)

theorem kept_calm (hub : Hub System) : hub.Kept hub.calm :=
  hub.kept_listWithin _

theorem kept_list (hub : Hub System) : hub.Kept hub.list.2 := by
  rw [list]
  split
  · exact .refl hub
  · split
    · exact .refl hub
    · have claimed : hub.Kept hub.claimListing.startLister := ⟨rfl, rfl, rfl, rfl, id⟩
      exact claimed.trans (kept_calm _)

theorem kept_poll (hub : Hub System) : hub.Kept hub.poll.2 := by
  have waited : hub.calm.Kept { hub.calm with queue := hub.calm.queue.wait.2 } :=
    ⟨rfl, rfl, rfl, rfl, fun before => hub.calm.queue.closed_wait.trans before⟩
  exact (hub.kept_calm.trans waited).trans (kept_calm _)

theorem kept_wait (hub : Hub System) : hub.Kept (EventSource.wait hub).2 := by
  have polled : (EventSource.wait hub).2 = hub.poll.2 := by
    simp only [EventSource.wait]
    split <;> rename_i same <;> rw [same]
  rw [polled]
  exact hub.kept_poll

theorem elapseLinks_keeps (span : Nat) (links : List (Handle × Link)) (queue : EventQueue) :
    (elapseLinks span links queue).1.map Prod.fst = links.map Prod.fst ∧
      (elapseLinks span links queue).2.closed = queue.closed := by
  induction links generalizing queue with
  | nil => exact ⟨rfl, rfl⟩
  | cons entry later ih =>
      rcases entry with ⟨handle, link⟩
      cases link with
      | simulated generator =>
          rcases ih (generator.elapse span queue).2 with ⟨handles, closed⟩
          constructor
          · exact congrArg (handle :: ·) handles
          · exact closed.trans (Generator.closed_elapse span generator queue)
      | bridge transport =>
          rcases ih queue with ⟨handles, closed⟩
          exact ⟨congrArg (handle :: ·) handles, closed⟩
      | rehearsed transport =>
          rcases ih queue with ⟨handles, closed⟩
          exact ⟨congrArg (handle :: ·) handles, closed⟩

theorem kept_elapse (span : Nat) (hub : Hub System) : hub.Kept (hub.elapse span) := by
  rcases elapseLinks_keeps span hub.links hub.queue with ⟨handles, closed⟩
  rw [elapse]
  generalize elapseLinks span hub.links hub.queue = elapsed at handles closed ⊢
  rcases elapsed with ⟨links, queue⟩
  have passed : hub.Kept { hub with links := links, queue := queue } :=
    ⟨handles, rfl, rfl, rfl, fun before => closed.trans before⟩
  exact passed.trans (kept_calm _)

theorem kept_advance {budget : Nat} {hub : Hub System} {elapsed : Elapsed budget (Hub System)}
    (advances : hub.advance budget = some elapsed) : hub.Kept elapsed.world := by
  rw [advance] at advances
  split at advances
  · cases advances
  · simp only at advances
    split at advances
    · cases advances
      exact hub.kept_elapse _
    · cases advances

end Hub

end SensorStream
