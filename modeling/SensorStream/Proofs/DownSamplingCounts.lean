import Mathlib.Data.List.Chain
import SensorStream.Proofs.DownSampling

/-!
# How many measurements pass down-sampling

A down-sampler is asked about measurements of several sensors, one after the other and in any
order.  What it answers about a sensor depends only on how many measurements of the same sensor
came before.  Which of them pass is therefore a matter of divisibility: how many do, that their
numbers ascend, and how far apart two neighbours can be.
-/

namespace SensorStream

/-! ## The numbers that pass -/

/-- The measurement with this number is not left out. -/
def Passes (every index : Nat) : Prop :=
  ¬(every ≠ 0 ∧ every ∣ index)

instance (every index : Nat) : Decidable (Passes every index) :=
  inferInstanceAs (Decidable (¬_))

theorem passes_succ_iff {every index : Nat} : Passes every (index + 1) ↔ ¬every ∣ index + 1 := by
  refine not_congr (and_iff_right_of_imp ?_)
  rintro divides rfl
  exact Nat.succ_ne_zero index (Nat.zero_dvd.1 divides)

/-- The numbers that pass, of those up to a last one. -/
def passing (every last : Nat) : List Nat :=
  (List.range' 1 last).filter fun index => Passes every index

theorem passing_succ_of_passes {every last : Nat} (passes : Passes every (last + 1)) :
    passing every (last + 1) = passing every last ++ [last + 1] := by
  rw [passing, List.range'_1_concat, List.filter_append, Nat.add_comm 1 last,
    List.filter_singleton, decide_eq_true passes]
  rfl

theorem passing_succ_of_not_passes {every last : Nat} (leftOut : ¬Passes every (last + 1)) :
    passing every (last + 1) = passing every last := by
  rw [passing, List.range'_1_concat, List.filter_append, Nat.add_comm 1 last,
    List.filter_singleton, decide_eq_false leftOut]
  exact List.append_nil _

/-- Every number that does not pass is a multiple. -/
theorem length_passing (every last : Nat) : (passing every last).length + last / every = last := by
  induction last with
  | zero => rw [Nat.zero_div]; rfl
  | succ last ih =>
      rw [Nat.succ_div]
      by_cases passes : Passes every (last + 1)
      · rw [passing_succ_of_passes passes, if_neg (passes_succ_iff.1 passes), List.length_append,
          List.length_singleton]
        omega
      · have divides : every ∣ last + 1 := not_not.1 (passes_succ_iff.not.1 passes)
        rw [passing_succ_of_not_passes passes, if_pos divides]
        omega

theorem pairwise_passing (every last : Nat) : (passing every last).Pairwise (· < ·) :=
  (List.pairwise_lt_range' 1).filter _

/-- Of two numbers next to each other one passes, so the greatest that does is close to the
end. -/
theorem le_greatest {every last greatest : Nat} (atLeastTwo : 2 ≤ every)
    (isGreatest : (passing every last).getLast? = some greatest) : last ≤ greatest + 1 := by
  cases last with
  | zero => exact Nat.zero_le _
  | succ last =>
      by_cases passes : Passes every (last + 1)
      · rw [passing_succ_of_passes passes, List.getLast?_concat] at isGreatest
        cases isGreatest
        omega
      · have divides : every ∣ last + 1 := not_not.1 (passes_succ_iff.not.1 passes)
        rw [passing_succ_of_not_passes passes] at isGreatest
        cases last with
        | zero => cases isGreatest
        | succ last =>
            have former : Passes every (last + 1) := by
              refine passes_succ_iff.2 fun both => ?_
              have one : every ∣ 1 := (Nat.dvd_add_right both).1 divides
              exact absurd (Nat.le_of_dvd Nat.one_pos one) (by omega)
            rw [passing_succ_of_passes former, List.getLast?_concat] at isGreatest
            cases isGreatest
            omega

theorem isChain_passing {every : Nat} (atLeastTwo : 2 ≤ every) (last : Nat) :
    (passing every last).IsChain fun former latter => latter ≤ former + 2 := by
  induction last with
  | zero => exact .nil
  | succ last ih =>
      by_cases passes : Passes every (last + 1)
      · rw [passing_succ_of_passes passes, List.isChain_append]
        refine ⟨ih, .singleton _, ?_⟩
        rintro greatest isGreatest _ ⟨⟩
        have near := le_greatest atLeastTwo isGreatest
        omega
      · rw [passing_succ_of_not_passes passes]
        exact ih

/-! ## What a down-sampler answers -/

namespace DownSampler

/-- The answer about a measurement by its number alone. -/
def ruling (every index : Nat) : Option UInt64 :=
  if Passes every index then some (UInt64.ofNat index) else none

/-- The down-sampler after it was asked about measurements of these sensors. -/
def acceptAll (downSampler : DownSampler) (handles : List Handle) : DownSampler :=
  handles.foldl (fun reached handle => (reached.accept handle).2) downSampler

/-- What it answers about each of them. -/
def answers (downSampler : DownSampler) : List Handle → List (Handle × Option UInt64)
  | [] => []
  | handle :: later =>
      (handle, (downSampler.accept handle).1) :: (downSampler.accept handle).2.answers later

/-- The answers about one sensor. -/
def answersTo (handle : Handle) (answered : List (Handle × Option UInt64)) :
    List (Option UInt64) :=
  (answered.filter fun answer => answer.1 = handle).map Prod.snd

/-- The numbers under which measurements of one sensor are let through. -/
def indices (handle : Handle) (answered : List (Handle × Option UInt64)) : List UInt64 :=
  (answersTo handle answered).filterMap id

theorem every_acceptAll (downSampler : DownSampler) (handles : List Handle) :
    (downSampler.acceptAll handles).every = downSampler.every := by
  induction handles generalizing downSampler with
  | nil => rfl
  | cons handle later ih => exact ih (downSampler.accept handle).2

theorem count_counts_acceptAll (downSampler : DownSampler) (handles : List Handle)
    (handle : Handle) :
    (downSampler.acceptAll handles).counts.count handle =
      downSampler.counts.count handle + handles.count handle := by
  induction handles generalizing downSampler with
  | nil => rfl
  | cons counted later ih =>
      change ((downSampler.accept counted).2.acceptAll later).counts.count handle = _
      rw [ih, counts_accept, Tally.count_add, List.count_cons]
      simp only [beq_iff_eq]
      omega

theorem answers_append (downSampler : DownSampler) (before after : List Handle) :
    downSampler.answers (before ++ after) =
      downSampler.answers before ++ (downSampler.acceptAll before).answers after := by
  induction before generalizing downSampler with
  | nil => rfl
  | cons handle before ih =>
      rw [List.cons_append, answers, answers, ih]
      rfl

@[simp] theorem length_answers (downSampler : DownSampler) (handles : List Handle) :
    (downSampler.answers handles).length = handles.length := by
  induction handles generalizing downSampler with
  | nil => rfl
  | cons handle later ih => exact congrArg Nat.succ (ih (downSampler.accept handle).2)

/-- A measurement after others is judged by how many of these belong to its sensor. -/
theorem accept_acceptAll_fresh (every : UInt64) (before : List Handle) (handle : Handle)
    (fits : before.count handle + 1 < UInt64.size) :
    (((fresh every).acceptAll before).accept handle).1 =
      ruling every.toNat (before.count handle + 1) := by
  have counted := (count_counts_acceptAll (fresh every) before handle).trans (Nat.zero_add _)
  rw [accept_of_count _ handle counted fits, every_acceptAll]
  exact (ite_not _ _ _).symm

theorem answersTo_concat (handle : Handle) (answered : List (Handle × Option UInt64))
    (answer : Handle × Option UInt64) :
    answersTo handle (answered ++ [answer]) =
      answersTo handle answered ++ if answer.1 = handle then [answer.2] else [] := by
  rw [answersTo, List.filter_append, List.map_append, List.filter_singleton]
  by_cases own : answer.1 = handle
  · rw [if_pos own, decide_eq_true own]
    rfl
  · rw [if_neg own, decide_eq_false own]
    rfl

/-- The answers about one sensor are those to its numbers, whatever lies between. -/
theorem answersTo_fresh (every : UInt64) (handles : List Handle) (handle : Handle)
    (fits : handles.count handle < UInt64.size) :
    answersTo handle ((fresh every).answers handles) =
      (List.range' 1 (handles.count handle)).map (ruling every.toNat) := by
  induction handles using List.reverseRecOn with
  | nil => rfl
  | append_singleton before last ih =>
      rw [List.count_append, List.count_singleton] at fits
      rw [answers_append, answers, answers, answersTo_concat, ih (by omega), List.count_append,
        List.count_singleton]
      by_cases own : last = handle
      · subst own
        simp only [beq_self_eq_true, if_true] at fits ⊢
        rw [accept_acceptAll_fresh every before last fits, List.range'_1_concat, List.map_append,
          Nat.add_comm 1]
        rfl
      · simp only [beq_eq_false_iff_ne.2 own, if_neg own]
        exact List.append_nil _

theorem filterMap_ruling (every : Nat) (numbers : List Nat) :
    (numbers.map (ruling every)).filterMap id =
      (numbers.filter fun index => Passes every index).map UInt64.ofNat := by
  induction numbers with
  | nil => rfl
  | cons index later ih =>
      by_cases passes : Passes every index
      · rw [List.map_cons, ruling, if_pos passes, List.filter_cons_of_pos (by simpa using passes),
          List.map_cons, ← ih]
        rfl
      · rw [List.map_cons, ruling, if_neg passes,
          List.filter_cons_of_neg (by simpa using passes), ← ih]
        rfl

/-- The numbers of one sensor that are let through are those that pass. -/
theorem toNat_indices_fresh (every : UInt64) (handles : List Handle) (handle : Handle)
    (fits : handles.count handle < UInt64.size) :
    (indices handle ((fresh every).answers handles)).map UInt64.toNat =
      passing every.toNat (handles.count handle) := by
  rw [indices, answersTo_fresh every handles handle fits, filterMap_ruling, List.map_map]
  refine (List.map_congr_left fun index member => ?_).trans (List.map_id _)
  have within := List.mem_range'_1.1 (List.mem_filter.1 member).1
  exact UInt64.toNat_ofNat_of_lt' (by omega)

/-- What comes of measurements of these sensors, in this order, if every so-many-th of each
sensor is left out. -/
structure Periodic (every : UInt64) (handles : List Handle) : Prop where
  /-- The measurement that is number `i` of its sensor, counted from 1, is left out if `every` is
  not zero and divides `i`, and is let through as number `i` otherwise. -/
  answer : ∀ (before after : List Handle) (handle : Handle), handles = before ++ handle :: after →
    ((fresh every).answers handles)[before.length]? =
      some (handle, ruling every.toNat (before.count handle + 1))
  count : ∀ handle : Handle,
    (((fresh every).acceptAll handles).count handle).toNat = handles.count handle
  length : ∀ handle : Handle, (indices handle ((fresh every).answers handles)).length =
    if every = 0 then handles.count handle
    else handles.count handle - handles.count handle / every.toNat
  ascending : ∀ handle : Handle, (indices handle ((fresh every).answers handles)).Pairwise (· < ·)
  close : 2 ≤ every.toNat → ∀ handle : Handle,
    (indices handle ((fresh every).answers handles)).IsChain fun former latter =>
      latter.toNat ≤ former.toNat + 2

/-- However the measurements of several sensors interleave, each sensor is thinned out by
itself. -/
theorem periodic_of_fits (every : UInt64) (handles : List Handle)
    (fits : ∀ handle : Handle, handles.count handle < UInt64.size) : Periodic every handles where
  answer before after handle split := by
    have own : before.count handle + 1 < UInt64.size := by
      have total := fits handle
      rw [split, List.count_append, List.count_cons_self] at total
      omega
    rw [split, answers_append, answers, accept_acceptAll_fresh every before handle own,
      List.getElem?_append_right (by rw [length_answers]), length_answers, Nat.sub_self]
    rfl
  count handle := by
    have counted := (count_counts_acceptAll (fresh every) handles handle).trans (Nat.zero_add _)
    rw [DownSampler.count, counted]
    exact UInt64.toNat_ofNat_of_lt' (fits handle)
  length handle := by
    have numbers := toNat_indices_fresh every handles handle (fits handle)
    have multiples := length_passing every.toNat (handles.count handle)
    rw [← List.length_map UInt64.toNat, numbers]
    split
    · rename_i zero
      rw [zero] at multiples ⊢
      exact (Nat.div_zero _ ▸ multiples :)
    · omega
  ascending handle := by
    have numbers := toNat_indices_fresh every handles handle (fits handle)
    have sorted := pairwise_passing every.toNat (handles.count handle)
    rw [← numbers, List.pairwise_map] at sorted
    exact sorted.imp UInt64.lt_iff_toNat_lt.2
  close atLeastTwo handle := by
    have numbers := toNat_indices_fresh every handles handle (fits handle)
    have chain := isChain_passing atLeastTwo (handles.count handle)
    rwa [← numbers, List.isChain_map] at chain

/-- Two sensors take turns, and every second measurement of each is left out. -/
theorem periodic_of_two_sensors :
    (∀ handle : Handle, [⟨1⟩, ⟨2⟩, ⟨1⟩, ⟨1⟩, (⟨2⟩ : Handle)].count handle < UInt64.size) ∧
      Periodic 2 [⟨1⟩, ⟨2⟩, ⟨1⟩, ⟨1⟩, ⟨2⟩] := by
  have fits (handle : Handle) :
      [⟨1⟩, ⟨2⟩, ⟨1⟩, ⟨1⟩, (⟨2⟩ : Handle)].count handle < UInt64.size :=
    List.count_le_length.trans_lt (by decide)
  exact ⟨fits, periodic_of_fits 2 _ fits⟩

end DownSampler

end SensorStream
