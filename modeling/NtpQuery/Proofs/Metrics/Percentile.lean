import Mathlib.Data.List.Sort
import NtpQuery.Metrics
import NtpQuery.Proofs.Binary64.Fixed
import NtpQuery.Proofs.Binary64.Nearest
import NtpQuery.Proofs.EventLog.Replay
import NtpQuery.Proofs.Sorting

/-!
# Percentile and median of a window

The place of the 95th percentile is computed with doubles. The share 0.95 is no
double, and the one next to it is a little smaller, so the product falls short of
a whole number exactly where the count is a multiple of twenty. It falls short by
less than half a unit of its last place there, and is rounded up to the whole
number; elsewhere it is a twentieth away from the next one at least. So the place
is the whole part of nineteen twentieths of the count.

The samples in order then tell how many are above the percentile, and that the
median is not.
-/

namespace NtpQuery

/-- The value of a number that is finite. -/
def Number.toRat? : Number → Option Rat
  | .whole n => some n
  | .real x => x.toRat?

namespace KindStats

/-- The double that stands for 0.95, in units of `2 ^ (-53)`. -/
def shareUnits : Nat := 8556839292003942

theorem share_eq : Binary64.nearest false 95 100 = .finite false shareUnits (-53) := by
  decide +kernel

/-- The product with the share as it is before it is rounded. -/
theorem mul_share_eq {count : Nat} (short : count < 2 ^ 40) :
    ∃ num den, 0 < den ∧ num * 2 ^ 53 = den * (count * shareUnits) ∧
      (Binary64.ofInt count).mul (.nearest false 95 100) = .nearest false num den := by
  have size : (count : Int).natAbs < 2 ^ 53 := by omega
  have natural : decide ((count : Int) < 0) = false := by simp
  obtain ⟨mantissa, e, read⟩ := Binary64.ofInt_eq_finite size
  have exact := Binary64.toRat?_ofInt size
  rw [natural] at read
  rw [read, Binary64.toRat?_finite, Option.some.injEq] at exact
  have value : (mantissa * 2 ^ e : Rat) = count := by simpa [Binary64.value] using exact
  refine ⟨mantissa * shareUnits * Binary64.powTwo (e + -53), Binary64.powTwo (-(e + -53)),
    Binary64.powTwo_pos _, ?_, ?_⟩
  · rw [← @Nat.cast_inj Rat]
    push_cast
    rw [Binary64.cast_powTwo (e + -53), zpow_add₀ two_ne_zero, ← value]
    norm_num
    ring
  · rw [read, share_eq]
    rfl

/-- The product with the share is rounded on a grid that tells twentieths apart. -/
theorem mul_share_rounded {count : Nat} (nonempty : 0 < count) (short : count < 2 ^ 40) :
    ∃ grid mantissa, 2 ^ 12 < 2 ^ grid ∧ shareUnits * (count * 2 ^ grid) < 2 ^ 106 ∧
      2 ^ 54 * mantissa ≤ 2 * (shareUnits * (count * 2 ^ grid)) + 2 ^ 53 ∧
      2 * (shareUnits * (count * 2 ^ grid)) ≤ 2 ^ 54 * mantissa + 2 ^ 53 ∧
      ((Binary64.ofInt count).mul (.nearest false 95 100)).toRat? =
        some (Binary64.value false mantissa (-(grid : Nat))) := by
  obtain ⟨num, den, positive, ratio, product⟩ := mul_share_eq short
  have bounds : 0 < count * shareUnits ∧ count * shareUnits < 2 ^ 93 := by
    simp only [shareUnits]
    omega
  obtain ⟨grid, coarse, low, high⟩ := exists_two_pow_mul (k := 105) bounds.1 (by omega)
  have fine : 2 ^ 12 < 2 ^ grid := by
    by_contra wide
    have : count * shareUnits * 2 ^ grid ≤ count * shareUnits * 2 ^ 12 :=
      Nat.mul_le_mul_left _ (Nat.le_of_not_lt wide)
    omega
  have value := Binary64.toRat?_nearest_of_normal false positive (Nat.two_pow_pos 53) ratio low high
    (by omega)
  obtain ⟨above, below⟩ :=
    @roundedDiv_bounds (count * shareUnits * 2 ^ grid) _ (Nat.two_pow_pos 53)
  have inner : count * shareUnits * 2 ^ grid = shareUnits * (count * 2 ^ grid) := by
    ring
  rw [inner] at high above below value
  rw [← product] at value
  exact ⟨grid, _, fine, high, by omega, by omega, value⟩

/-- The place of the percentile is nineteen twentieths of the count, rounded down. -/
theorem p95Index_eq {count : Nat} (nonempty : 0 < count) (short : count < 2 ^ 40) :
    p95Index count = 19 * count / 20 := by
  obtain ⟨grid, mantissa, fine, small, above, below, value⟩ := mul_share_rounded nonempty short
  -- Count and place are compared in units of the grid, where everything is whole and linear.
  have low : 20 * (19 * count / 20 * 2 ^ grid) ≤ 19 * (count * 2 ^ grid) := by
    calc 20 * (19 * count / 20 * 2 ^ grid) = 20 * (19 * count / 20) * 2 ^ grid := by ring
      _ ≤ 19 * count * 2 ^ grid := Nat.mul_le_mul_right _ (Nat.mul_div_le _ _)
      _ = 19 * (count * 2 ^ grid) := by ring
  have high : 19 * (count * 2 ^ grid) ≤ 20 * (19 * count / 20 * 2 ^ grid) + 19 * 2 ^ grid := by
    calc 19 * (count * 2 ^ grid) = 19 * count * 2 ^ grid := by ring
      _ ≤ (20 * (19 * count / 20) + 19) * 2 ^ grid := Nat.mul_le_mul_right _ (by omega)
      _ = 20 * (19 * count / 20 * 2 ^ grid) + 19 * 2 ^ grid := by ring
  simp only [shareUnits] at small above below
  have reached : 19 * count / 20 * 2 ^ grid ≤ mantissa := by omega
  have missed : mantissa < (19 * count / 20 + 1) * 2 ^ grid := by
    rw [Nat.add_mul, Nat.one_mul]
    omega
  have power : (0 : Rat) < 2 ^ grid := by positivity
  have quotient : Binary64.value false mantissa (-(grid : Nat)) = mantissa / 2 ^ grid := by
    simp [Binary64.value, div_eq_mul_inv]
  rw [quotient] at value
  have whole : ((Binary64.ofInt count).mul (.nearest false 95 100)).truncate? =
      some ((19 * count / 20 : Nat) : Int) := by
    apply Binary64.truncate?_of_toRat? _ value
    · rw [le_div_iff₀ power]
      exact_mod_cast reached
    · rw [div_lt_iff₀ power]
      exact_mod_cast missed
    · exact Binary64.isNegative_mul (by simp) (Binary64.isNegative_nearest ..)
  rw [p95Index]
  simp only [whole, Option.getD_some, Int.toNat_natCast]
  omega

section Order

variable {samples : List Int}

theorem ascending_perm (samples : List Int) : (ascending samples).Perm samples :=
  sortBy_perm _ _

theorem ascending_pairwise (samples : List Int) : (ascending samples).Pairwise (· ≤ ·) := by
  have total : ∀ a b : Int, decide (a ≤ b) ∨ decide (b ≤ a) := by
    intro a b
    simpa using Int.le_total a b
  have trans : ∀ a b c : Int, decide (a ≤ b) → decide (b ≤ c) → decide (a ≤ c) := by
    intro a b c
    simpa using Int.le_trans
  exact (sortBy_pairwise total trans samples).imp of_decide_eq_true

/-- There is one way to put numbers in order. -/
theorem ascending_eq_mergeSort (samples : List Int) : ascending samples = samples.mergeSort := by
  have sorted : samples.mergeSort.Pairwise (· ≤ ·) := by
    simpa using @List.pairwise_mergeSort Int (fun a b => decide (a ≤ b))
      (fun a b c => by simpa using Int.le_trans) (fun a b => by simpa using Int.le_total a b) samples
  exact ((ascending_perm samples).trans (List.mergeSort_perm samples _).symm).eq_of_pairwise'
    (ascending_pairwise samples) sorted

theorem getElem_ascending_mono {i j : Nat} (le : i ≤ j) (inside : j < (ascending samples).length) :
    (ascending samples)[i] ≤ (ascending samples)[j] := by
  rcases Nat.lt_or_eq_of_le le with less | rfl
  · exact List.pairwise_iff_getElem.mp (ascending_pairwise samples) i j _ _ less
  · exact Int.le_refl _

/-- Only the samples behind a place in the order can be above the one there. -/
theorem countP_above {i : Nat} {x : Int} (place : (ascending samples)[i]? = some x) :
    samples.countP (x < ·) ≤ samples.length - (i + 1) := by
  obtain ⟨inside, rfl⟩ := List.getElem?_eq_some_iff.mp place
  generalize chosen : (ascending samples)[i] = x
  have front : ((ascending samples).take (i + 1)).countP (x < ·) = 0 := by
    apply List.countP_eq_zero.mpr
    intro y mem
    obtain ⟨j, near, rfl⟩ := List.mem_take_iff_getElem.mp mem
    have le : (ascending samples)[j] ≤ (ascending samples)[i] :=
      getElem_ascending_mono (by omega) inside
    simpa [chosen] using le
  calc samples.countP (x < ·) = (ascending samples).countP (x < ·) :=
        ((ascending_perm samples).countP_eq _).symm
    _ = ((ascending samples).take (i + 1) ++ (ascending samples).drop (i + 1)).countP (x < ·) := by
        rw [List.take_append_drop]
    _ = ((ascending samples).drop (i + 1)).countP (x < ·) := by
        rw [List.countP_append, front, Nat.zero_add]
    _ ≤ ((ascending samples).drop (i + 1)).length := List.countP_le_length
    _ = samples.length - (i + 1) := by
        rw [List.length_drop, (ascending_perm samples).length_eq]

theorem largest?_eq_max? (samples : List Int) : largest? samples = samples.max? := by
  cases samples with
  | nil => rfl
  | cons x rest => rfl

/-- The percentile is the largest of few samples, and its place in the order of many is nineteen
twentieths of their number. Less than a twentieth of the samples is above it. -/
structure IsP95 (samples : List Int) (p95 : Int) : Prop where
  few : samples.length < 20 → samples.max? = some p95
  many : 20 ≤ samples.length → samples.mergeSort[19 * samples.length / 20]? = some p95
  above : 20 * samples.countP (p95 < ·) < samples.length
  le_max : ∃ greatest, samples.max? = some greatest ∧ p95 ≤ greatest

/-- The percentile of some samples is not below the one with which their larger half begins. -/
theorem p95?_spec (nonempty : samples ≠ []) (short : samples.length < 2 ^ 40) :
    ∃ p95, p95? samples = some p95 ∧ IsP95 samples p95 ∧
      ∀ half, (ascending samples)[samples.length / 2]? = some half → half ≤ p95 := by
  have positive := List.length_pos_iff.mpr nonempty
  have size := (ascending_perm samples).length_eq
  obtain ⟨greatest, found⟩ := Option.isSome_iff_exists.mp (List.isSome_max?_of_ne_nil nonempty)
  obtain ⟨mem, most⟩ := List.max?_eq_some_iff.mp found
  by_cases few : samples.length < 20
  · have all : samples.countP (greatest < ·) = 0 := by
      apply List.countP_eq_zero.mpr
      intro x inside
      simpa using most x inside
    refine ⟨greatest, ?_, ⟨fun _ => found, by omega, by omega, greatest, found, Int.le_refl _⟩, ?_⟩
    · rw [p95?, if_pos few, largest?_eq_max?, found]
    · intro half place
      exact most half ((ascending_perm samples).mem_iff.mp (List.mem_of_getElem? place))
  · have inside : 19 * samples.length / 20 < (ascending samples).length := by omega
    have place := List.getElem?_eq_getElem inside
    have above := countP_above place
    have le := most _ ((ascending_perm samples).mem_iff.mp (List.getElem_mem inside))
    refine ⟨(ascending samples)[19 * samples.length / 20], ?_,
      ⟨by omega, fun _ => ?_, by omega, greatest, found, le⟩, ?_⟩
    · rw [p95?, if_neg few, p95Index_eq positive short, place]
    · rw [← ascending_eq_mergeSort, place]
    · intro half middle
      obtain ⟨_, rfl⟩ := List.getElem?_eq_some_iff.mp middle
      exact getElem_ascending_mono (by omega) inside

end Order

/-- The median exists and does not go beyond the sample with which the larger half begins. -/
theorem median?_spec {samples : List Int} (nonempty : samples ≠ [])
    (small : ∀ time ∈ samples, 0 ≤ time ∧ time < 2 ^ 50) :
    ∃ median value half, median? samples = some median ∧ median.toRat? = some value ∧
      (ascending samples)[samples.length / 2]? = some half ∧ value ≤ half := by
  have positive := List.length_pos_iff.mpr nonempty
  have size := (ascending_perm samples).length_eq
  have inside : samples.length / 2 < (ascending samples).length := by omega
  by_cases odd : samples.length % 2 = 1
  · refine ⟨.whole (ascending samples)[samples.length / 2], _, _, ?_, rfl,
      List.getElem?_eq_getElem inside, le_refl _⟩
    rw [median?, middle?, size, if_pos odd, List.getElem?_eq_getElem inside]
    rfl
  · have before : samples.length / 2 - 1 < (ascending samples).length := by omega
    have order : (ascending samples)[samples.length / 2 - 1] ≤
        (ascending samples)[samples.length / 2] := getElem_ascending_mono (by omega) inside
    have bounds : ∀ i (place : i < (ascending samples).length),
        0 ≤ (ascending samples)[i] ∧ (ascending samples)[i] < 2 ^ 50 := fun i place =>
      small _ ((ascending_perm samples).mem_iff.mp (List.getElem_mem place))
    have first := bounds _ before
    have second := bounds _ inside
    obtain ⟨x, halved, value⟩ := Binary64.toRat?_roundTo_half
      (n := (ascending samples)[samples.length / 2 - 1] + (ascending samples)[samples.length / 2])
      (by omega)
    refine ⟨.real (x.roundTo 2), _, _, ?_, value, List.getElem?_eq_getElem inside, ?_⟩
    · rw [median?, middle?, size, if_neg odd, List.getElem?_eq_getElem before,
        List.getElem?_eq_getElem inside]
      show (Number.halfSum? (.whole _) (.whole _)).map _ = _
      rw [Number.halfSum?, halved]
      rfl
    · have le : ((ascending samples)[samples.length / 2 - 1] : Rat) ≤
          (ascending samples)[samples.length / 2] := Int.cast_le.mpr order
      push_cast
      linarith

theorem mean?_isSome {samples : List Int} (nonempty : samples ≠ [])
    (small : ∀ time ∈ samples, time.natAbs ≤ Binary64.largest) :
    ∃ mean, mean? samples = some mean := by
  obtain ⟨mean, computed⟩ := Number.mean?_wholes nonempty small
  exact ⟨mean.roundTo 2, by rw [mean?, computed]; rfl⟩

theorem median?_isSome {samples : List Int} (nonempty : samples ≠ [])
    (small : ∀ time ∈ samples, time.natAbs ≤ Binary64.largest) :
    ∃ median, median? samples = some median := by
  have some : ascending samples ≠ [] := by
    intro none
    have size := (ascending_perm samples).length_eq
    rw [none] at size
    exact nonempty (List.length_eq_zero_iff.mp size.symm)
  obtain ⟨middle, found, inside⟩ := middle?_spec some
  have origin : ∀ a ∈ middle.elements, a.natAbs ≤ Binary64.largest := fun a mem =>
    small a ((ascending_perm samples).mem_iff.mp (inside a mem))
  rw [median?, found]
  cases middle with
  | one a => exact ⟨_, rfl⟩
  | two a b =>
    obtain ⟨x, half⟩ := Number.halfSum?_wholes (origin a (by simp [Middle.elements]))
      (origin b (by simp [Middle.elements]))
    exact ⟨_, by simp only [half]; rfl⟩

theorem p95?_isSome {samples : List Int} (nonempty : samples ≠ []) :
    ∃ p95, p95? samples = some p95 := by
  have positive := List.length_pos_iff.mpr nonempty
  rw [p95?]
  split
  · rw [largest?_eq_max?]
    exact Option.isSome_iff_exists.mp (List.isSome_max?_of_ne_nil nonempty)
  · have inside : p95Index samples.length < (ascending samples).length := by
      rw [(ascending_perm samples).length_eq, p95Index]
      omega
    exact ⟨_, List.getElem?_eq_getElem inside⟩

/-- A window with times in the range of the doubles can be shown. -/
theorem record_ok {stats : KindStats} (kind : String)
    (small : ∀ time ∈ stats.roundTripsRev, time.natAbs ≤ Binary64.largest) :
    ∃ shown, stats.record kind = .ok shown := by
  cases window : stats.roundTripsRev with
  | nil =>
    simp only [record, windowValue, window]
    exact ⟨_, rfl⟩
  | cons time times =>
    have nonempty : (time :: times).reverse ≠ [] := by simp
    have small' : ∀ other ∈ (time :: times).reverse, other.natAbs ≤ Binary64.largest := by
      intro other mem
      exact small other (window ▸ List.mem_reverse.mp mem)
    obtain ⟨mean, averaged⟩ := mean?_isSome nonempty small'
    obtain ⟨median, halved⟩ := median?_isSome nonempty small'
    obtain ⟨p95, ranked⟩ := p95?_isSome nonempty
    simp only [record, windowValue, window, List.isEmpty_cons, Bool.false_eq_true, if_false,
      averaged, halved, ranked, Option.map_some]
    exact ⟨_, rfl⟩

/-- What the record of a kind shows of a window with samples: percentile and median, which are in
order. -/
theorem record_quantiles {stats : KindStats} (kind : String)
    (nonempty : stats.roundTripsRev.reverse ≠ [])
    (small : ∀ time ∈ stats.roundTripsRev.reverse, 0 ≤ time ∧ time < 2 ^ 50)
    (short : stats.roundTripsRev.reverse.length < 2 ^ 40) :
    ∃ shown p95 median value, stats.record kind = .ok shown ∧
      shown.member? "p95_rtt_ms" = some (.whole p95) ∧
      shown.member? "median_rtt_ms" = some (.number median) ∧ median.toRat? = some value ∧
      IsP95 stats.roundTripsRev.reverse p95 ∧ value ≤ p95 := by
  have moderate : ∀ time ∈ stats.roundTripsRev.reverse, time.natAbs ≤ Binary64.largest := by
    intro time mem
    have bounds := small time mem
    exact Binary64.le_largest (by omega)
  obtain ⟨mean, averaged⟩ := mean?_isSome nonempty moderate
  obtain ⟨median, value, half, halved, exact, place, le⟩ := median?_spec nonempty small
  obtain ⟨p95, ranked, isP95, above⟩ := p95?_spec nonempty short
  have order : (half : Rat) ≤ p95 := Int.cast_le.mpr (above half place)
  have filled : stats.roundTripsRev.isEmpty = false := by simpa using nonempty
  have members : ∃ shown, stats.record kind = .ok shown ∧
      shown.member? "p95_rtt_ms" = some (.whole p95) ∧
      shown.member? "median_rtt_ms" = some (.number median) := by
    simp only [record, windowValue, filled, Bool.false_eq_true, if_false, averaged, halved, ranked,
      Option.map_some]
    exact ⟨_, rfl, rfl, rfl⟩
  obtain ⟨shown, recorded, upper, middle⟩ := members
  exact ⟨shown, p95, median, value, recorded, upper, middle, exact, isP95, le_trans le order⟩

end KindStats

end NtpQuery
