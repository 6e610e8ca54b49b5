import SensorStream.Sample

/-!
# The channel from the dispatcher to the consumer

A first-in, first-out channel with one end for sending and one for receiving.
Either end can go away.  Samples that are pending when the sending end goes away
can still be received; when the receiving end goes away they are lost.
-/

namespace SensorStream

/-- Samples on their way to the consumer. -/
structure Channel where
  /-- The number of samples that fit; without a bound, all do. -/
  capacity : Option Nat
  pending : List StreamedSample
  senderAlive : Bool
  receiverAlive : Bool
  deriving Repr

namespace Channel

/-- A channel with both ends in place and nothing in it. -/
def withCapacity (capacity : Option Nat) : Channel :=
  ⟨capacity, [], true, true⟩

def isFull (channel : Channel) : Bool :=
  match channel.capacity with
  | some capacity => capacity ≤ channel.pending.length
  | none => false

/-- What becomes of a sample at the sending end. -/
inductive Handover where
  | sent (channel : Channel)
  | full
  | detached
  deriving Repr

def send (channel : Channel) (sample : StreamedSample) : Handover :=
  if !channel.receiverAlive then .detached
  else if channel.isFull then .full
  else .sent { channel with pending := channel.pending ++ [sample] }

/-- What the receiving end finds. -/
inductive Arrival where
  | sample (sample : StreamedSample)
  /-- Nothing is pending, but something may still be sent. -/
  | nothing
  /-- Nothing is pending and nothing will ever be sent. -/
  | stopped
  deriving Repr

def receive (channel : Channel) : Arrival × Channel :=
  match channel.pending with
  | first :: rest => (.sample first, { channel with pending := rest })
  | [] => (if channel.senderAlive then .nothing else .stopped, channel)

namespace Arrival

/-- The sample that arrived, if one did. -/
def sample? : Arrival → Option StreamedSample
  | sample received => some received
  | nothing => none
  | stopped => none

end Arrival

/-- The sending end goes away. -/
def dropSender (channel : Channel) : Channel :=
  { channel with senderAlive := false }

/-- The receiving end goes away, and with it what is pending. -/
def dropReceiver (channel : Channel) : Channel :=
  { channel with receiverAlive := false, pending := [] }

/-- A sample is taken if the receiving end is there and has room, and it goes to the end. -/
theorem send_eq_sent_iff {channel grown : Channel} {sample : StreamedSample} :
    channel.send sample = .sent grown ↔ channel.receiverAlive = true ∧ channel.isFull = false ∧
      grown = { channel with pending := channel.pending ++ [sample] } := by
  rw [send]
  cases channel.receiverAlive with
  | false => exact iff_of_false nofun nofun
  | true =>
      cases channel.isFull with
      | true => exact iff_of_false nofun nofun
      | false =>
          constructor
          · rintro ⟨⟩
            exact ⟨rfl, rfl, rfl⟩
          · rintro ⟨_, _, rfl⟩
            rfl

/-- A receiver finds nothing as long as something may still be sent. -/
theorem receive_eq_nothing_iff {channel : Channel} :
    channel.receive.1 = .nothing ↔ channel.senderAlive = true ∧ channel.pending = [] := by
  rw [receive]
  cases channel.pending with
  | nil => cases channel.senderAlive <;> simp
  | cons first rest => simp

/-- A receiver finds the stream stopped when nothing will ever be there again. -/
theorem receive_eq_stopped_iff {channel : Channel} :
    channel.receive.1 = .stopped ↔ channel.senderAlive = false ∧ channel.pending = [] := by
  rw [receive]
  cases channel.pending with
  | nil => cases channel.senderAlive <;> simp
  | cons first rest => simp

end Channel

end SensorStream
