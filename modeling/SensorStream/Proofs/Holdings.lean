import Mathlib.Data.List.Induction
import SensorStream.Proofs.Ledger

/-!
# What is held of a source

The ledger of a source tells which handles were handed out and which of them are still held.
A source that draws its handles from a counter, one for every opening that is tried, hands out
ascending handles that are never the same.
-/

namespace SensorStream

/-! ## Histories -/

/-- There is an entry like this in a history, and every entry after it is like that. -/
def Since {Entry : Type} (such after : Entry → Prop) (history : List Entry) : Prop :=
  ∃ (earlier later : List Entry) (entry : Entry), history = earlier ++ entry :: later ∧
    such entry ∧ ∀ other ∈ later, after other

theorem not_since_nil {Entry : Type} {such after : Entry → Prop} : ¬Since such after [] := by
  rintro ⟨earlier, later, entry, split, _⟩
  simp at split

theorem since_concat {Entry : Type} {such after : Entry → Prop} {history : List Entry}
    {last : Entry} :
    Since such after (history ++ [last]) ↔ such last ∨ Since such after history ∧ after last := by
  constructor
  · rintro ⟨earlier, later, entry, split, found, kept⟩
    rcases List.eq_nil_or_concat later with rfl | ⟨before, final, rfl⟩
    · rcases List.append_inj' split rfl with ⟨_, same⟩
      cases same
      exact .inl found
    · rw [List.concat_eq_append, ← List.cons_append, ← List.append_assoc] at split
      rcases List.append_inj' split rfl with ⟨rfl, same⟩
      cases same
      refine .inr ⟨⟨earlier, before, entry, rfl, found, ?_⟩, kept _ (by simp)⟩
      exact fun other member => kept other (by simp [member])
  · rintro (found | ⟨⟨earlier, later, entry, rfl, found, kept⟩, spared⟩)
    · exact ⟨history, [], last, rfl, found, nofun⟩
    · refine ⟨earlier, later ++ [last], entry, by simp, found, ?_⟩
      intro other member
      rcases List.mem_append.1 member with before | final
      · exact kept other before
      · rw [List.mem_singleton.1 final]
        exact spared

/-- An entry that ends all that came before it divides a history. -/
theorem since_append_cons {Entry : Type} {such after : Entry → Prop} {earlier later : List Entry}
    {entry : Entry} (other : ¬such entry) (ends : ¬after entry) :
    Since such after (earlier ++ entry :: later) ↔ Since such after later := by
  induction later using List.reverseRecOn with
  | nil =>
      rw [since_concat]
      constructor
      · rintro (found | ⟨_, kept⟩)
        · exact absurd found other
        · exact absurd kept ends
      · exact fun since => absurd since not_since_nil
  | append_singleton before last ih =>
      rw [← List.cons_append, ← List.append_assoc, since_concat, since_concat, ih]

/-! ## Handing out and giving up -/

namespace Dealing

/-- The handle that was handed out. -/
def obtained? : Dealing → Option Handle
  | acquired _ (.ok handle) => some handle
  | _ => none

def isAcquisition : Dealing → Bool
  | acquired _ _ => true
  | _ => false

/-- The link of the handle was given up. -/
def GivesUp (handle : Handle) : Dealing → Prop
  | released given (.ok ()) => given = handle
  | shutDown => True
  | _ => False

end Dealing

/-- The handles that were handed out, in their order. -/
def handlesIn (dealings : List Dealing) : List Handle :=
  dealings.filterMap Dealing.obtained?

/-- The number of requests to acquire a sensor. -/
def acquisitionsIn (dealings : List Dealing) : Nat :=
  dealings.countP Dealing.isAcquisition

/-- The handle was handed out, and its link was not given up since. -/
def Outstanding (handle : Handle) (dealings : List Dealing) : Prop :=
  ∃ (before after : List Dealing) (sensor : Descriptor),
    dealings = before ++ .acquired sensor (.ok handle) :: after ∧
      ∀ dealing ∈ after, ¬dealing.GivesUp handle

@[simp] theorem handlesIn_concat (dealings : List Dealing) (dealing : Dealing) :
    handlesIn (dealings ++ [dealing]) = handlesIn dealings ++ dealing.obtained?.toList := by
  cases handed : dealing.obtained? <;> simp [handlesIn, handed]

@[simp] theorem acquisitionsIn_concat (dealings : List Dealing) (dealing : Dealing) :
    acquisitionsIn (dealings ++ [dealing]) =
      acquisitionsIn dealings + dealing.isAcquisition.toNat := by
  cases asked : dealing.isAcquisition <;> simp [acquisitionsIn, asked]

theorem outstanding_iff_since {handle : Handle} {dealings : List Dealing} :
    Outstanding handle dealings ↔
      Since (·.obtained? = some handle) (fun dealing => ¬dealing.GivesUp handle) dealings := by
  constructor
  · rintro ⟨before, after, sensor, split, kept⟩
    exact ⟨before, after, _, split, rfl, kept⟩
  · rintro ⟨before, after, dealing, split, handed, kept⟩
    cases dealing with
    | acquired sensor result =>
        cases result with
        | error error => cases handed
        | ok other =>
            cases handed
            exact ⟨before, after, sensor, split, kept⟩
    | _ => cases handed

theorem outstanding_concat {handle : Handle} {dealings : List Dealing} {dealing : Dealing} :
    Outstanding handle (dealings ++ [dealing]) ↔
      dealing.obtained? = some handle ∨
        Outstanding handle dealings ∧ ¬dealing.GivesUp handle := by
  rw [outstanding_iff_since, outstanding_iff_since]
  exact since_concat

theorem Outstanding.mem_handlesIn {handle : Handle} {dealings : List Dealing}
    (outstanding : Outstanding handle dealings) : handle ∈ handlesIn dealings := by
  rcases outstanding with ⟨before, after, sensor, rfl, _⟩
  simp [handlesIn, Dealing.obtained?]

/-- Longer histories have as many requests or more. -/
theorem acquisitionsIn_mono {earlier later : List Dealing} (longer : earlier <+: later) :
    acquisitionsIn earlier ≤ acquisitionsIn later :=
  longer.sublist.countP_le

theorem acquisitionsIn_lt_of_append {earlier later : List Dealing} {bound : Nat}
    (few : acquisitionsIn (earlier ++ later) < bound) : acquisitionsIn earlier < bound :=
  Nat.lt_of_le_of_lt (acquisitionsIn_mono (List.prefix_append earlier later)) few

/-! ## Handles from a counter -/

/-- So many handles were drawn from a counter, which stands at the next one, and those that
were handed out are among them, in the order of drawing. -/
structure Numbered (next : Handle) (dealings : List Dealing) (drawn : Nat) : Prop where
  few : drawn ≤ acquisitionsIn dealings
  next_eq : next = ⟨UInt64.ofNat (drawn + 1)⟩
  within : ∀ handle ∈ handlesIn dealings,
    0 < handle.number.toNat ∧ handle.number.toNat ≤ drawn
  ascending : (handlesIn dealings).Pairwise fun earlier later => earlier.number < later.number

namespace Numbered

variable {next : Handle} {dealings : List Dealing} {drawn : Nat}

theorem begin : Numbered ⟨1⟩ [] 0 :=
  ⟨Nat.le_refl 0, rfl, nofun, .nil⟩

/-- An entry that hands nothing out. -/
theorem entered (numbered : Numbered next dealings drawn) {dealing : Dealing}
    (nothing : dealing.obtained? = none) : Numbered next (dealings ++ [dealing]) drawn where
  few := by
    rw [acquisitionsIn_concat]
    exact Nat.le_trans numbered.few (Nat.le_add_right _ _)
  next_eq := numbered.next_eq
  within := by
    rw [handlesIn_concat, nothing, Option.toList_none, List.append_nil]
    exact numbered.within
  ascending := by
    rw [handlesIn_concat, nothing, Option.toList_none, List.append_nil]
    exact numbered.ascending

/-- A handle is drawn. -/
theorem draw (numbered : Numbered next dealings drawn) (asked : drawn < acquisitionsIn dealings) :
    Numbered ⟨next.number + 1⟩ dealings (drawn + 1) where
  few := asked
  next_eq := by
    rw [numbered.next_eq]
    simp [UInt64.ofNat_add]
  within := by
    intro handle member
    rcases numbered.within handle member with ⟨positive, below⟩
    exact ⟨positive, Nat.le_succ_of_le below⟩
  ascending := numbered.ascending

theorem drawn_lt (numbered : Numbered next dealings drawn) {bound : Nat}
    (few : acquisitionsIn dealings + 1 < bound) : drawn + 1 < bound :=
  Nat.lt_of_le_of_lt (Nat.succ_le_succ numbered.few) few

/-- The next handle, as a number. -/
theorem toNat_next (numbered : Numbered next dealings drawn) (few : drawn + 1 < UInt64.size) :
    next.number.toNat = drawn + 1 := by
  rw [numbered.next_eq]
  exact UInt64.toNat_ofNat_of_lt' few

/-- The next handle is greater than all that were handed out. -/
theorem lt_next (numbered : Numbered next dealings drawn) (few : drawn + 1 < UInt64.size) :
    ∀ handle ∈ handlesIn dealings, handle.number < next.number := by
  intro handle member
  rw [UInt64.lt_iff_toNat_lt, numbered.toNat_next few]
  exact Nat.lt_succ_of_le (numbered.within handle member).2

/-- Every handle that is drawn takes the counter further. -/
theorem next_lt_next (numbered : Numbered next dealings drawn) {later : Handle}
    {more : List Dealing} {drew : Nat} (after : Numbered later more drew) (grown : drawn < drew)
    (few : drew + 1 < UInt64.size) : next.number < later.number := by
  have below : drawn + 1 < drew + 1 := Nat.succ_lt_succ grown
  rw [UInt64.lt_iff_toNat_lt, after.toNat_next few,
    numbered.toNat_next (Nat.lt_trans below few)]
  exact below

/-- The next handle is drawn and handed out. -/
theorem obtained (numbered : Numbered next dealings drawn) (few : drawn + 1 < UInt64.size)
    (sensor : Descriptor) :
    Numbered ⟨next.number + 1⟩ (dealings ++ [.acquired sensor (.ok next)]) (drawn + 1) where
  few := by
    rw [acquisitionsIn_concat]
    exact Nat.succ_le_succ numbered.few
  next_eq := by
    rw [numbered.next_eq]
    simp [UInt64.ofNat_add]
  within := by
    intro handle member
    rw [handlesIn_concat] at member
    rcases List.mem_append.1 member with earlier | now
    · rcases numbered.within handle earlier with ⟨positive, below⟩
      exact ⟨positive, Nat.le_succ_of_le below⟩
    · rw [List.mem_singleton.1 now, numbered.toNat_next few]
      exact ⟨Nat.succ_pos drawn, Nat.le_refl _⟩
  ascending := by
    rw [handlesIn_concat]
    apply List.pairwise_append.2
    refine ⟨numbered.ascending, List.pairwise_singleton _ _, ?_⟩
    intro handle member next same
    rw [List.mem_singleton.1 same]
    exact numbered.lt_next few handle member

end Numbered

/-! ## Whatever is asked -/

/-- What a source comes to, whatever is asked of it. -/
inductive Served {Source : Type} [EventSource Source] (first : Source) : Source → Prop where
  | begin : Served first first
  | list {source : Source} (earlier : Served first source) :
      Served first (EventSource.list source).2
  | wait {source : Source} (earlier : Served first source) :
      Served first (EventSource.wait source).2
  | acquire {source : Source} (earlier : Served first source) (sensor : Descriptor) :
      Served first (EventSource.acquire sensor source).2
  | release {source : Source} (earlier : Served first source) (handle : Handle) :
      Served first (EventSource.release handle source).2
  | shutdown {source : Source} (earlier : Served first source) :
      Served first (EventSource.shutdown source)
  | advance {source : Source} (earlier : Served first source) {budget : Nat}
      {elapsed : Elapsed budget Source}
      (passes : EventSource.advance budget source = some elapsed) : Served first elapsed.world

/-- Nothing is ever struck from a ledger. -/
theorem Served.dealings_extend {Source : Type} [EventSource Source] {first ledger : Ledger Source}
    (served : Served first ledger) : first.dealings <+: ledger.dealings := by
  induction served with
  | begin => exact List.prefix_rfl
  | list _ ih => exact ih.trans (List.prefix_append _ _)
  | wait _ ih => exact ih.trans (List.prefix_append _ _)
  | acquire _ _ ih => exact ih.trans (List.prefix_append _ _)
  | release _ _ ih => exact ih.trans (List.prefix_append _ _)
  | shutdown _ ih => exact ih.trans (List.prefix_append _ _)
  | advance _ passes ih =>
      rcases Option.map_eq_some_iff.1 passes with ⟨elapsed, _, rfl⟩
      exact ih

end SensorStream
