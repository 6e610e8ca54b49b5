import SensorStream.Sample
import SensorStream.Stream.DownSampler

/-!
# The law of down-sampling

`passed` runs a down-sampler over a list of measurements.  `selection` says what
should come out of that without any down-sampler: each measurement is numbered
among those of its own handle, and every so many of them is left out.  The two
agree as long as no handle has more measurements than a 64-bit word counts.
-/

namespace SensorStream

/-- How many of some measurements belong to a handle. -/
def occurrences (handle : Handle) (measured : List (Handle × Sample)) : Nat :=
  measured.countP fun measurement => measurement.1 = handle

@[simp] theorem occurrences_nil (handle : Handle) : occurrences handle [] = 0 := rfl

@[simp] theorem occurrences_append (handle : Handle)
    (earlier later : List (Handle × Sample)) :
    occurrences handle (earlier ++ later) =
      occurrences handle earlier + occurrences handle later :=
  List.countP_append

theorem occurrences_singleton (handle measuring : Handle) (sample : Sample) :
    occurrences handle [(measuring, sample)] = if measuring = handle then 1 else 0 := by
  simp [occurrences, List.countP_cons]

/-- The samples that a list of measurements should give rise to, if others came
earlier.  The measurement that is number `i` of its handle, counted from 1, becomes
the handle's sample `i`, and it is left out if `every` is not zero and divides `i`. -/
def selectionAfter (every : Nat) (earlier : List (Handle × Sample)) :
    List (Handle × Sample) → List StreamedSample
  | [] => []
  | (handle, sample) :: later =>
      let index := occurrences handle earlier + 1
      let rest := selectionAfter every (earlier ++ [(handle, sample)]) later
      if every ≠ 0 ∧ every ∣ index then rest
      else ⟨handle, UInt64.ofNat index, sample⟩ :: rest

/-- The samples that a list of measurements should give rise to. -/
def selection (every : Nat) (measured : List (Handle × Sample)) : List StreamedSample :=
  selectionAfter every [] measured

namespace DownSampler

/-- What becomes of one measurement. -/
def pass (downSampler : DownSampler) (measurement : Handle × Sample) : Option StreamedSample :=
  (downSampler.accept measurement.1).1.map fun index =>
    ⟨measurement.1, index, measurement.2⟩

/-- The down-sampler after it accepted some measurements. -/
def after (downSampler : DownSampler) (measured : List (Handle × Sample)) : DownSampler :=
  measured.foldl (fun reached measurement => (reached.accept measurement.1).2) downSampler

/-- What becomes of some measurements. -/
def passed (downSampler : DownSampler) : List (Handle × Sample) → List StreamedSample
  | [] => []
  | measurement :: later =>
      (downSampler.pass measurement).toList ++ (downSampler.accept measurement.1).2.passed later

@[simp] theorem after_nil (downSampler : DownSampler) : downSampler.after [] = downSampler := rfl

@[simp] theorem after_append (downSampler : DownSampler)
    (earlier later : List (Handle × Sample)) :
    downSampler.after (earlier ++ later) = (downSampler.after earlier).after later :=
  List.foldl_append

@[simp] theorem after_singleton (downSampler : DownSampler) (measurement : Handle × Sample) :
    downSampler.after [measurement] = (downSampler.accept measurement.1).2 := rfl

@[simp] theorem passed_nil (downSampler : DownSampler) : downSampler.passed [] = [] := rfl

@[simp] theorem passed_singleton (downSampler : DownSampler) (measurement : Handle × Sample) :
    downSampler.passed [measurement] = (downSampler.pass measurement).toList := by
  simp [passed]

@[simp] theorem passed_append (downSampler : DownSampler)
    (earlier later : List (Handle × Sample)) :
    downSampler.passed (earlier ++ later) =
      downSampler.passed earlier ++ (downSampler.after earlier).passed later := by
  induction earlier generalizing downSampler with
  | nil => rfl
  | cons measurement earlier ih =>
      simp only [List.cons_append, passed, ih, List.append_assoc]
      rfl

/-- More measurements never take back what passed before. -/
theorem passed_mono (downSampler : DownSampler) {fewer more : List (Handle × Sample)}
    (grown : fewer <+: more) : downSampler.passed fewer <+: downSampler.passed more := by
  rcases grown with ⟨later, rfl⟩
  rw [passed_append]
  exact List.prefix_append _ _

/-- As long as it fits into a word, the number of a measurement decides whether it is
left out. -/
theorem suppresses_ofNat (every : UInt64) {index : Nat} (fits : index < UInt64.size) :
    suppresses every (UInt64.ofNat index) = true ↔ every.toNat ≠ 0 ∧ every.toNat ∣ index := by
  have index_toNat : (UInt64.ofNat index).toNat = index :=
    UInt64.toNat_ofNat_of_lt' fits
  have nonzero : every = 0 ↔ every.toNat = 0 := by
    rw [← UInt64.toNat_inj]
    rfl
  have divides : UInt64.ofNat index % every = 0 ↔ every.toNat ∣ index := by
    rw [← UInt64.toNat_inj, UInt64.toNat_mod, index_toNat]
    exact Nat.dvd_iff_mod_eq_zero.symm
  simp only [suppresses, Bool.and_eq_true, bne_iff_ne, ne_eq, beq_iff_eq, nonzero, divides]

/-- A measurement is let through or left out by its number among those of its handle. -/
theorem accept_of_count (downSampler : DownSampler) (handle : Handle) {earlier : Nat}
    (counted : downSampler.counts.count handle = earlier) (fits : earlier + 1 < UInt64.size) :
    (downSampler.accept handle).1 =
      if downSampler.every.toNat ≠ 0 ∧ downSampler.every.toNat ∣ earlier + 1 then none
      else some (UInt64.ofNat (earlier + 1)) := by
  have own : (downSampler.counts.add handle).count handle = earlier + 1 := by
    rw [Tally.count_add, counted, if_pos rfl]
  have decided := suppresses_ofNat downSampler.every fits
  simp only [accept, count, own]
  by_cases suppressed : suppresses downSampler.every (UInt64.ofNat (earlier + 1)) = true
  · rw [if_pos suppressed, if_pos (decided.1 suppressed)]
  · rw [if_neg suppressed, if_neg (fun left => suppressed (decided.2 left))]

/-- A measurement passes or not by its number among those of its handle. -/
theorem pass_of_count (downSampler : DownSampler) (handle : Handle) (sample : Sample)
    {earlier : Nat} (counted : downSampler.counts.count handle = earlier)
    (fits : earlier + 1 < UInt64.size) :
    downSampler.pass (handle, sample) =
      if downSampler.every.toNat ≠ 0 ∧ downSampler.every.toNat ∣ earlier + 1 then none
      else some ⟨handle, UInt64.ofNat (earlier + 1), sample⟩ := by
  rw [pass, accept_of_count downSampler handle counted fits]
  split <;> rfl

/-- Running a down-sampler that has counted the earlier measurements selects among
the later ones by their numbers. -/
private theorem passed_eq_selectionAfter (downSampler : DownSampler)
    (earlier later : List (Handle × Sample))
    (counted : ∀ handle, downSampler.counts.count handle = occurrences handle earlier)
    (fits : ∀ handle, occurrences handle (earlier ++ later) < UInt64.size) :
    downSampler.passed later = selectionAfter downSampler.every.toNat earlier later := by
  -- The counts remain the occurrences among the earlier ones while these grow.
  induction later generalizing downSampler earlier with
  | nil => rfl
  | cons measurement later ih =>
      rcases measurement with ⟨handle, sample⟩
      have ownFits : occurrences handle earlier + 1 < UInt64.size := by
        have total := fits handle
        rw [List.append_cons, occurrences_append, occurrences_append,
          occurrences_singleton, if_pos rfl] at total
        omega
      have rest := ih (downSampler.accept handle).2 (earlier ++ [(handle, sample)])
        (by
          intro other
          rw [counts_accept, Tally.count_add, counted, occurrences_append,
            occurrences_singleton])
        (by simpa using fits)
      rw [every_accept] at rest
      simp only [passed, selectionAfter]
      rw [rest, pass_of_count downSampler handle sample (counted handle) ownFits]
      split
      · rfl
      · rfl

/-- A fresh down-sampler selects the measurements that the law lets through. -/
theorem passed_fresh (every : UInt64) (measured : List (Handle × Sample))
    (fits : ∀ handle, occurrences handle measured < UInt64.size) :
    (fresh every).passed measured = selection every.toNat measured :=
  passed_eq_selectionAfter (fresh every) [] measured (fun _ => rfl) fits

end DownSampler

end SensorStream
