import SensorStream.Sensor

/-!
# Counts per sensor

How often something happened, counted separately for every connection.  A
handle that was never counted has no entry and the count zero.
-/

namespace SensorStream

/-- One entry per handle that was counted, in the order of the first counts.  No count
exceeds the number of all counts, so words of 64 bits hold them until there were
`2 ^ 64`. -/
structure Tally where
  entries : List (Handle × Nat)
  deriving DecidableEq, Repr

namespace Tally

def empty : Tally :=
  ⟨[]⟩

/-- How often a handle was counted, by a list of entries. -/
def countIn (handle : Handle) : List (Handle × Nat) → Nat
  | [] => 0
  | (known, count) :: rest => if known = handle then count else countIn handle rest

def count (tally : Tally) (handle : Handle) : Nat :=
  countIn handle tally.entries

/-- Count a handle in a list of entries. -/
def bump (handle : Handle) : List (Handle × Nat) → List (Handle × Nat)
  | [] => [(handle, 1)]
  | (known, count) :: rest =>
      if known = handle then (known, count + 1) :: rest else (known, count) :: bump handle rest

def add (tally : Tally) (handle : Handle) : Tally :=
  ⟨bump handle tally.entries⟩

def total (tally : Tally) : Nat :=
  tally.entries.foldr (fun entry counted => entry.2 + counted) 0

/-- The entries with the handles ascending. -/
def ascending (tally : Tally) : List (Handle × Nat) :=
  tally.entries.mergeSort fun left right => left.1.number ≤ right.1.number

@[simp] theorem count_empty (handle : Handle) : empty.count handle = 0 := rfl

@[simp] theorem total_empty : empty.total = 0 := rfl

/-- Counting a handle raises its own count by one and no other. -/
theorem count_add (tally : Tally) (counted handle : Handle) :
    (tally.add counted).count handle =
      tally.count handle + if counted = handle then 1 else 0 := by
  rcases tally with ⟨entries⟩
  simp only [add, count]
  induction entries with
  | nil => by_cases same : counted = handle <;> simp [bump, countIn, same]
  | cons entry rest ih =>
      rcases entry with ⟨known, number⟩
      by_cases isCounted : known = counted
      · subst isCounted
        by_cases same : known = handle <;> simp [bump, countIn, same]
      · by_cases isAsked : known = handle
        · subst isAsked
          simp [bump, countIn, isCounted, Ne.symm isCounted]
        · simp [bump, countIn, isCounted, isAsked, ih]

/-- Every count adds one to the number of all counts. -/
@[simp] theorem total_add (tally : Tally) (handle : Handle) :
    (tally.add handle).total = tally.total + 1 := by
  rcases tally with ⟨entries⟩
  simp only [add, total]
  induction entries with
  | nil => rfl
  | cons entry rest ih =>
      simp only [bump]
      split
      · simp only [List.foldr_cons]; omega
      · simp only [List.foldr_cons, ih]; omega

theorem count_le_total (tally : Tally) (handle : Handle) : tally.count handle ≤ tally.total := by
  rcases tally with ⟨entries⟩
  simp only [count, total]
  induction entries with
  | nil => exact Nat.le_refl 0
  | cons entry rest ih =>
      rcases entry with ⟨known, number⟩
      rw [countIn, List.foldr_cons]
      split
      · exact Nat.le_add_right _ _
      · exact Nat.le_trans ih (Nat.le_add_left _ _)

/-! ## Entries -/

/-- No handle has two entries, and none has an entry without being counted. -/
structure Sound (tally : Tally) : Prop where
  distinct : (tally.entries.map Prod.fst).Nodup
  positive : ∀ entry ∈ tally.entries, 0 < entry.2

theorem mem_map_fst_bump {known handle : Handle} {entries : List (Handle × Nat)} :
    known ∈ (bump handle entries).map Prod.fst ↔
      known = handle ∨ known ∈ entries.map Prod.fst := by
  induction entries with
  | nil => simp [bump]
  | cons entry rest ih =>
      rw [bump]
      split
      · rename_i same
        rw [← same]
        simp
      · rw [List.map_cons, List.mem_cons, ih, List.map_cons, List.mem_cons]
        exact or_left_comm

theorem nodup_map_fst_bump {entries : List (Handle × Nat)} (handle : Handle)
    (distinct : (entries.map Prod.fst).Nodup) : ((bump handle entries).map Prod.fst).Nodup := by
  induction entries with
  | nil => simp [bump]
  | cons entry rest ih =>
      rw [List.map_cons, List.nodup_cons] at distinct
      rw [bump]
      split
      · exact List.nodup_cons.2 distinct
      · rename_i other
        rw [List.map_cons, List.nodup_cons, mem_map_fst_bump]
        refine ⟨?_, ih distinct.2⟩
        rintro (same | member)
        · exact other same
        · exact distinct.1 member

theorem positive_of_mem_bump {entries : List (Handle × Nat)} (handle : Handle)
    (positive : ∀ entry ∈ entries, 0 < entry.2) : ∀ entry ∈ bump handle entries, 0 < entry.2 := by
  induction entries with
  | nil => simp [bump]
  | cons first rest ih =>
      rw [List.forall_mem_cons] at positive
      rw [bump]
      split
      · exact List.forall_mem_cons.2 ⟨Nat.succ_pos _, positive.2⟩
      · exact List.forall_mem_cons.2 ⟨positive.1, ih positive.2⟩

theorem sound_empty : empty.Sound :=
  ⟨.nil, nofun⟩

theorem Sound.add {tally : Tally} (sound : tally.Sound) (handle : Handle) :
    (tally.add handle).Sound :=
  ⟨nodup_map_fst_bump handle sound.distinct, positive_of_mem_bump handle sound.positive⟩

end Tally

end SensorStream
