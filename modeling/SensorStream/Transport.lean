import SensorStream.Text.Blank

/-!
# Transports

A sensor is reached over one of three transports: a HID bridge, a Silicon Labs
USB bridge, or no hardware at all (the simulated sensor).  Each has a key that
people write, a code that foreign programs read and a flag in a set.

Sets of transports are read from a comma separated list of keys.  Unknown
entries of the list contribute nothing, and a list of which nothing is left is
refused.
-/

namespace SensorStream

/-- How a sensor is attached. -/
inductive Transport where
  | hid
  | siUsb
  | simulated
  deriving DecidableEq, Repr

namespace Transport

/-- The key under which a transport is shown. -/
def key : Transport → String
  | hid => "Hid"
  | siUsb => "SiUsb"
  | simulated => "TestSensor"

/-- The number that stands for a transport in foreign records. -/
def code : Transport → Nat
  | hid => 0
  | siUsb => 1
  | simulated => 2

def all : List Transport :=
  [hid, siUsb, simulated]

/-- The transport that a bare lower-case word names. -/
def ofWord? (word : List Char) : Option Transport :=
  if word = ['h', 'i', 'd'] then some hid
  else if word = ['s', 'i', 'u', 's', 'b'] || word = ['u', 's', 'b'] then some siUsb
  else if word = ['t', 'e', 's', 't', 's', 'e', 'n', 's', 'o', 'r']
      || word = ['t', 'e', 's', 't'] then some simulated
  else none

/-- Read a key.  White space around it and the case of ASCII letters do not
matter. -/
def ofKey? (key : List Char) : Option Transport :=
  ofWord? ((Text.trim key).map Char.toLower)

/-- A transport is read back from the key that shows it. -/
@[simp] theorem ofKey?_key (transport : Transport) :
    ofKey? transport.key.toList = some transport := by
  cases transport <;> decide

end Transport

structure TransportSet where
  hid : Bool
  siUsb : Bool
  simulated : Bool
  deriving DecidableEq, Repr

namespace TransportSet

def empty : TransportSet :=
  ⟨false, false, false⟩

def full : TransportSet :=
  ⟨true, true, true⟩

/-- The transports that need hardware.  The simulated one must be asked for. -/
def hardware : TransportSet :=
  ⟨true, true, false⟩

def singleton : Transport → TransportSet
  | .hid => ⟨true, false, false⟩
  | .siUsb => ⟨false, true, false⟩
  | .simulated => ⟨false, false, true⟩

def has (set : TransportSet) : Transport → Bool
  | .hid => set.hid
  | .siUsb => set.siUsb
  | .simulated => set.simulated

@[ext] theorem ext_has {left right : TransportSet}
    (same : ∀ transport, left.has transport = right.has transport) : left = right := by
  cases left
  cases right
  simp only [mk.injEq]
  exact ⟨same .hid, same .siUsb, same .simulated⟩

/-- Combine two sets member by member. -/
def pointwise (combine : Bool → Bool → Bool) (left right : TransportSet) : TransportSet :=
  ⟨combine left.hid right.hid, combine left.siUsb right.siUsb,
    combine left.simulated right.simulated⟩

def union : TransportSet → TransportSet → TransportSet :=
  pointwise or

def inter : TransportSet → TransportSet → TransportSet :=
  pointwise and

/-- The members of `left` that are not members of `right`. -/
def minus : TransportSet → TransportSet → TransportSet :=
  pointwise fun inLeft inRight => inLeft && !inRight

def complement (set : TransportSet) : TransportSet :=
  minus full set

def isEmpty (set : TransportSet) : Bool :=
  set == empty

/-- Whether every member of `part` is a member of `set`. -/
def contains (set part : TransportSet) : Bool :=
  inter set part == part

def intersects (left right : TransportSet) : Bool :=
  !(inter left right).isEmpty

@[simp] theorem has_empty (transport : Transport) : empty.has transport = false := by
  cases transport <;> rfl

@[simp] theorem has_union (left right : TransportSet) (transport : Transport) :
    (union left right).has transport = (left.has transport || right.has transport) := by
  cases transport <;> rfl

@[simp] theorem has_singleton (member transport : Transport) :
    (singleton member).has transport = decide (member = transport) := by
  cases member <;> cases transport <;> rfl

/-! ## Flags -/

/-- The flag of a transport in the number that encodes a set. -/
def flag : Transport → UInt32
  | .hid => 1
  | .siUsb => 2
  | .simulated => 4

def flagName : Transport → String
  | .hid => "HID"
  | .siUsb => "SI_USB"
  | .simulated => "TEST"

/-- The members in the order of the codes. -/
def toList (set : TransportSet) : List Transport :=
  Transport.all.filter set.has

/-- The number that encodes a set: the sum of its members' flags. -/
def bits (set : TransportSet) : UInt32 :=
  (set.toList.map flag).foldl (· ||| ·) 0

/-- Read a set from a number; bits that are no transport's flag are ignored. -/
def ofBits (number : UInt32) : TransportSet :=
  ⟨number &&& flag .hid != 0, number &&& flag .siUsb != 0, number &&& flag .simulated != 0⟩

/-- Read a set from a number made of flags alone. -/
def ofBits? (number : UInt32) : Option TransportSet :=
  if number &&& full.bits == number then some (ofBits number) else none

/-- The number that encodes a set is read back as that set. -/
@[simp] theorem ofBits_bits (set : TransportSet) : ofBits set.bits = set := by
  rcases set with ⟨_ | _, _ | _, _ | _⟩ <;> decide

/-! ## Lists of keys -/

/-- The entries of a comma separated list.  There is one more entry than there
are commas. -/
def entries : List Char → List (List Char)
  | [] => [[]]
  | character :: rest =>
      if character = ',' then [] :: entries rest
      else match entries rest with
        | [] => [[character]]
        | entry :: others => (character :: entry) :: others

/-- What one entry of a list contributes. -/
def ofEntry (entry : List Char) : TransportSet :=
  match Transport.ofKey? entry with
  | some transport => singleton transport
  | none => empty

/-- The union of what the entries of a list contribute. -/
def ofEntries (list : List Char) : TransportSet :=
  ((entries list).map ofEntry).foldl union empty

/-- Read a comma separated list of keys; a list without a known key is refused. -/
def ofKeys? (list : List Char) : Option TransportSet :=
  let set := ofEntries list
  if set.isEmpty then none else some set

end TransportSet

end SensorStream
