import ListQuery.Binary64
import Mathlib.Tactic.Ring

/-!
# Rounding gives the nearest double

The words are compared with a quotient in units, so that all distances are natural numbers
(`distance`).  A quotient is rounded to a multiple of the power of two that leaves fifty-three
bits of it (`le_distance_multiple`).  Every finite word of a magnitude in that range is one of
these multiples, and the words that are not are smaller than the range
(`exists_units_eq_or_lt`).  So no finite word is nearer than the rounded one, and of two that
are equally near the even one is taken (`isNearest_ofRatio`).

The word is finite unless the quotient reaches the number half-way between the largest finite
double and the next power of two (`isFinite_ofRatio_iff`).  A whole number that is given by its
digits is rounded in the same way, although one with very many digits is not looked at
(`ofDecimal_whole`).
-/

namespace ListQuery.Binary64

/-! ## Distances -/

theorem unitsPerOne_pos : 0 < unitsPerOne := by
  unfold unitsPerOne
  -- The power is too large to be worked out.
  generalize 1074 = shift
  exact Nat.pow_pos Nat.two_pos

/-- A natural number with a sign. -/
def signed (negative : Bool) (magnitude : Nat) : Int :=
  if negative then -magnitude else magnitude

@[simp]
theorem natAbs_signed (negative : Bool) (magnitude : Nat) :
    (signed negative magnitude).natAbs = magnitude := by
  cases negative <;> simp [signed]

/-- The number that a finite word stands for, in units. -/
def signedUnits (x : Binary64) : Int :=
  signed x.isNegative x.units

/-- How far a finite word is from a quotient, in units and times the denominator. -/
def distance (x : Binary64) (numerator : Int) (denominator : Nat) : Nat :=
  (x.signedUnits * denominator - numerator * unitsPerOne).natAbs

/-- The finite words that no other finite word is nearer to a quotient than.  If another one is
as near, the significand is even. -/
structure IsNearest (x : Binary64) (numerator : Int) (denominator : Nat) : Prop where
  isFinite : x.isFinite = true
  distance_le : ∀ y : Binary64, y.isFinite = true →
    x.distance numerator denominator ≤ y.distance numerator denominator
  even : ∀ y : Binary64, y.isFinite = true → y.signedUnits ≠ x.signedUnits →
    y.distance numerator denominator = x.distance numerator denominator → x.significand % 2 = 0

/-! ## Rounding to a multiple -/

section Multiple

variable {total step : Nat}

/-- Two multiples are a step apart, or more. -/
theorem mul_apart {first second : Nat} (hne : first ≠ second) (step : Nat) :
    first * step + step ≤ second * step ∨ second * step + step ≤ first * step := by
  rcases Nat.lt_or_gt_of_ne hne with hless | hmore
  · exact .inl (Nat.succ_mul first step ▸ Nat.mul_le_mul_right step hless)
  · exact .inr (Nat.succ_mul second step ▸ Nat.mul_le_mul_right step hmore)

theorem roundHalfEven_cases (total step : Nat) :
    (roundHalfEven total step = total / step ∧ 2 * (total % step) ≤ step) ∨
      (roundHalfEven total step = total / step + 1 ∧ step ≤ 2 * (total % step)) := by
  unfold roundHalfEven
  dsimp only
  split
  · exact .inl ⟨rfl, by omega⟩
  · exact .inr ⟨rfl, by omega⟩

/-- No multiple is nearer than the rounded one. -/
theorem le_distance_multiple (total : Nat) (hstep : 0 < step) (count : Nat) :
    ((roundHalfEven total step * step : Nat) - (total : Int)).natAbs ≤
      ((count * step : Nat) - (total : Int)).natAbs := by
  have htotal := Nat.div_add_mod' total step
  have hrest := Nat.mod_lt total hstep
  have hnext : (total / step + 1) * step = total / step * step + step := Nat.succ_mul _ _
  by_cases hcount : count = roundHalfEven total step
  · rw [hcount]
  · have hapart := mul_apart hcount step
    rcases roundHalfEven_cases total step with ⟨hround, hhalf⟩ | ⟨hround, hhalf⟩ <;>
      rw [hround] at hapart ⊢ <;> omega

/-- If another multiple is as near as the rounded one, this one is even. -/
theorem roundHalfEven_even_of_tie (hstep : 0 < step) {count : Nat}
    (hcount : count ≠ roundHalfEven total step)
    (htie : ((count * step : Nat) - (total : Int)).natAbs =
      ((roundHalfEven total step * step : Nat) - (total : Int)).natAbs) :
    roundHalfEven total step % 2 = 0 := by
  have htotal := Nat.div_add_mod' total step
  have hrest := Nat.mod_lt total hstep
  have hnext : (total / step + 1) * step = total / step * step + step := Nat.succ_mul _ _
  have hapart := mul_apart hcount step
  -- Two multiples are equally near only half-way between them.
  have hhalf : 2 * (total % step) = step := by
    rcases roundHalfEven_cases total step with ⟨hround, hhalf⟩ | ⟨hround, hhalf⟩ <;>
      rw [hround] at htie hapart <;> omega
  unfold roundHalfEven
  dsimp only
  split <;> omega

end Multiple

/-! ## Words by their magnitude bits -/

section Magnitude

variable {negative : Bool} {magnitude scale rounded : Nat}

theorem toNat_bits_ofMagnitude (hmagnitude : magnitude < 0x8000000000000000) :
    (ofMagnitude negative magnitude).bits.toNat =
      (if negative then 0x8000000000000000 else 0) + magnitude := by
  unfold ofMagnitude
  rw [UInt64.toNat_ofNat', Nat.mod_eq_of_lt]
  split <;> omega

theorem isNegative_ofMagnitude (hmagnitude : magnitude < 0x8000000000000000) :
    (ofMagnitude negative magnitude).isNegative = negative := by
  unfold isNegative
  rw [toNat_bits_ofMagnitude hmagnitude]
  cases negative with
  | true => simp
  | false => simpa using hmagnitude

theorem exponentField_ofMagnitude (hmagnitude : magnitude < 0x8000000000000000) :
    (ofMagnitude negative magnitude).exponentField = magnitude / 0x10000000000000 := by
  unfold exponentField
  rw [toNat_bits_ofMagnitude hmagnitude]
  split <;> omega

theorem fraction_ofMagnitude (hmagnitude : magnitude < 0x8000000000000000) :
    (ofMagnitude negative magnitude).fraction = magnitude % 0x10000000000000 := by
  unfold fraction
  rw [toNat_bits_ofMagnitude hmagnitude]
  split <;> omega

/-- The significands that a scale can have, with the carry to the next scale. -/
structure IsSignificand (scale rounded : Nat) : Prop where
  le : rounded ≤ 0x20000000000000
  leading : scale ≠ 0 → 0x10000000000000 ≤ rounded

/-- A significand put on top of its scale gives the word of their product. -/
theorem units_ofMagnitude (hsignificand : IsSignificand scale rounded)
    (hfinite : scale * 0x10000000000000 + rounded < infinityMagnitude) :
    (ofMagnitude negative (scale * 0x10000000000000 + rounded)).units = rounded * 2 ^ scale ∧
      (ofMagnitude negative (scale * 0x10000000000000 + rounded)).significand % 2 =
        rounded % 2 := by
  obtain ⟨hle, hleading⟩ := hsignificand
  have hmagnitude : scale * 0x10000000000000 + rounded < 0x8000000000000000 := by
    unfold infinityMagnitude at hfinite
    omega
  unfold units significand shift
  rw [exponentField_ofMagnitude hmagnitude, fraction_ofMagnitude hmagnitude]
  rcases Nat.lt_or_ge rounded 0x10000000000000 with hsmall | hlarge
  · -- Only a word without a scale can lack the leading bit.
    obtain rfl : scale = 0 := by omega
    have hfield : (0 * 0x10000000000000 + rounded) / 0x10000000000000 = 0 := by omega
    have hfraction : (0 * 0x10000000000000 + rounded) % 0x10000000000000 = rounded := by omega
    rw [hfield, hfraction]
    exact ⟨rfl, rfl⟩
  · rcases Nat.lt_or_ge rounded 0x20000000000000 with hbelow | hcarry
    · -- The leading bit counts as one scale in the exponent field.
      have hfield : (scale * 0x10000000000000 + rounded) / 0x10000000000000 = scale + 1 := by omega
      have hfraction : 0x10000000000000 + (scale * 0x10000000000000 + rounded) % 0x10000000000000 =
          rounded := by omega
      rw [hfield, hfraction, if_neg (Nat.succ_ne_zero scale),
        Nat.max_eq_left (Nat.le_add_left 1 scale), Nat.add_sub_cancel]
      exact ⟨rfl, rfl⟩
    · -- The carry leaves an empty fraction in the next scale.
      obtain rfl : rounded = 0x20000000000000 := Nat.le_antisymm hle hcarry
      have hfield : (scale * 0x10000000000000 + 0x20000000000000) / 0x10000000000000 =
          scale + 1 + 1 := by omega
      have hfraction : 0x10000000000000 +
          (scale * 0x10000000000000 + 0x20000000000000) % 0x10000000000000 =
            0x10000000000000 := by omega
      rw [hfield, hfraction, if_neg (Nat.succ_ne_zero (scale + 1)),
        Nat.max_eq_left (Nat.le_add_left 1 (scale + 1)), Nat.add_sub_cancel, Nat.pow_eq,
        Nat.pow_succ]
      exact ⟨by omega, rfl⟩

theorem isFinite_ofMagnitude (hmagnitude : magnitude < 0x8000000000000000) :
    (ofMagnitude negative magnitude).isFinite = true ↔ magnitude < infinityMagnitude := by
  unfold isFinite infinityMagnitude
  rw [exponentField_ofMagnitude hmagnitude, bne_iff_ne]
  omega

theorem significand_lt (x : Binary64) : x.significand < 0x20000000000000 := by
  have hfraction : x.fraction < 0x10000000000000 := Nat.mod_lt _ (by decide)
  unfold significand
  split <;> omega

/-- A word is a multiple of a power of two or has a magnitude below the range of the power. -/
theorem exists_units_eq_or_lt (x : Binary64) (scale : Nat) :
    (∃ count, x.units = count * 2 ^ scale) ∨
      (scale ≠ 0 ∧ x.units < 0x10000000000000 * 2 ^ scale) := by
  have hsignificand := x.significand_lt
  unfold units
  rw [Nat.pow_eq]
  rcases Nat.lt_or_ge x.shift scale with hshift | hshift
  · obtain ⟨lower, rfl⟩ := Nat.exists_eq_add_one_of_ne_zero (Nat.ne_zero_of_lt hshift)
    refine .inr ⟨Nat.succ_ne_zero lower, ?_⟩
    calc x.significand * 2 ^ x.shift
        ≤ x.significand * 2 ^ lower :=
          Nat.mul_le_mul_left _ (Nat.pow_le_pow_right Nat.two_pos (by omega))
      _ < 0x20000000000000 * 2 ^ lower :=
          Nat.mul_lt_mul_of_pos_right hsignificand (Nat.two_pow_pos lower)
      _ = 0x10000000000000 * 2 ^ (lower + 1) := by
          rw [Nat.pow_succ]
          omega
  · refine .inl ⟨x.significand * 2 ^ (x.shift - scale), ?_⟩
    rw [Nat.mul_assoc, ← Nat.pow_add, Nat.sub_add_cancel hshift]

end Magnitude

/-! ## Rounding a quotient -/

section Ratio

variable {numerator denominator total : Nat} {negative : Bool}

/-- The power of two that leaves fifty-three bits of a quotient, if it has as many. -/
def scaleOf (total denominator : Nat) : Nat :=
  Nat.log2 (total / denominator) - 52

theorem total_lt_scaleOf (total : Nat) (hdenominator : 0 < denominator) :
    total < 0x20000000000000 * (denominator * 2 ^ scaleOf total denominator) := by
  have hquotient : total / denominator < 2 ^ (53 + scaleOf total denominator) :=
    Nat.lt_of_lt_of_le Nat.lt_log2_self
      (Nat.pow_le_pow_right Nat.two_pos (by unfold scaleOf; omega))
  calc total
      < 2 ^ (53 + scaleOf total denominator) * denominator :=
        (Nat.div_lt_iff_lt_mul hdenominator).mp hquotient
    _ = 0x20000000000000 * (denominator * 2 ^ scaleOf total denominator) := by
        rw [Nat.pow_add]
        ring

theorem le_total_of_scaleOf (hdenominator : 0 < denominator)
    (hscale : scaleOf total denominator ≠ 0) :
    0x10000000000000 * (denominator * 2 ^ scaleOf total denominator) ≤ total := by
  have hlog : 52 + scaleOf total denominator = Nat.log2 (total / denominator) := by
    unfold scaleOf at hscale ⊢
    omega
  have hquotient : 2 ^ (52 + scaleOf total denominator) ≤ total / denominator := by
    rw [hlog]
    refine Nat.log2_self_le fun hzero => hscale ?_
    rw [scaleOf, hzero, Nat.log2_zero]
  calc 0x10000000000000 * (denominator * 2 ^ scaleOf total denominator)
      = 2 ^ (52 + scaleOf total denominator) * denominator := by
        rw [Nat.pow_add]
        ring
    _ ≤ total := (Nat.le_div_iff_mul_le hdenominator).mp hquotient

/-- The significand of a quotient. -/
def significandOf (total denominator : Nat) : Nat :=
  roundHalfEven total (denominator * 2 ^ scaleOf total denominator)

theorem step_pos (total : Nat) (hdenominator : 0 < denominator) :
    0 < denominator * 2 ^ scaleOf total denominator :=
  Nat.mul_pos hdenominator (Nat.two_pow_pos _)

theorem isSignificand_significandOf (total : Nat) (hdenominator : 0 < denominator) :
    IsSignificand (scaleOf total denominator) (significandOf total denominator) := by
  have hstep := step_pos total hdenominator
  have hquotient : total / (denominator * 2 ^ scaleOf total denominator) < 0x20000000000000 :=
    (Nat.div_lt_iff_lt_mul hstep).mpr (total_lt_scaleOf total hdenominator)
  have hround := roundHalfEven_cases total (denominator * 2 ^ scaleOf total denominator)
  refine ⟨by unfold significandOf; omega, fun hscale => ?_⟩
  have hleading : 0x10000000000000 ≤ total / (denominator * 2 ^ scaleOf total denominator) :=
    (Nat.le_div_iff_mul_le hstep).mpr (le_total_of_scaleOf hdenominator hscale)
  unfold significandOf
  omega

/-- How far a magnitude in units is from a quotient, in units and times the denominator. -/
def gap (units denominator total : Nat) : Nat :=
  ((units * denominator : Nat) - (total : Int)).natAbs

theorem gap_multiple (count : Nat) :
    gap (count * 2 ^ scaleOf total denominator) denominator total =
      ((count * (denominator * 2 ^ scaleOf total denominator) : Nat) - (total : Int)).natAbs := by
  rw [gap, Nat.mul_assoc, Nat.mul_comm (2 ^ _)]

/-- The magnitude of a word is a multiple of the scale's power or farther away than one. -/
theorem units_cases (total : Nat) (hdenominator : 0 < denominator) (y : Binary64) :
    (∃ count, y.units = count * 2 ^ scaleOf total denominator) ∨
      gap (significandOf total denominator * 2 ^ scaleOf total denominator) denominator total <
        gap y.units denominator total := by
  refine (y.exists_units_eq_or_lt (scaleOf total denominator)).imp_right ?_
  rintro ⟨hscale, hunits⟩
  -- The least multiple in the range of the scale lies between the word and the quotient.
  have hleast := le_distance_multiple total (step_pos total hdenominator) 0x10000000000000
  have hrange := le_total_of_scaleOf hdenominator hscale
  have hbelow := Nat.mul_lt_mul_of_pos_right hunits hdenominator
  rw [Nat.mul_assoc, Nat.mul_comm (2 ^ _)] at hbelow
  rw [gap_multiple]
  unfold gap significandOf
  omega

/-- No word has a magnitude nearer to a quotient than its rounded significand. -/
theorem gap_le (total : Nat) (hdenominator : 0 < denominator) (y : Binary64) :
    gap (significandOf total denominator * 2 ^ scaleOf total denominator) denominator total ≤
      gap y.units denominator total := by
  rcases y.units_cases total hdenominator with ⟨count, hcount⟩ | hfarther
  · rw [hcount, gap_multiple, gap_multiple]
    exact le_distance_multiple total (step_pos total hdenominator) count
  · exact hfarther.le

/-- Zero is as far from the quotient as the quotient is from zero. -/
theorem gap_le_total (total : Nat) (hdenominator : 0 < denominator) :
    gap (significandOf total denominator * 2 ^ scaleOf total denominator) denominator total ≤
      total := by
  have hzero := gap_le total hdenominator (zero false)
  rw [show (zero false).units = 0 from rfl] at hzero
  refine hzero.trans_eq ?_
  unfold gap
  omega

/-- If another word has a magnitude as near, the significand is even. -/
theorem significandOf_even_of_tie (hdenominator : 0 < denominator) {y : Binary64}
    (hunits : y.units ≠ significandOf total denominator * 2 ^ scaleOf total denominator)
    (htie : gap y.units denominator total =
      gap (significandOf total denominator * 2 ^ scaleOf total denominator) denominator total) :
    significandOf total denominator % 2 = 0 := by
  rcases y.units_cases total hdenominator with ⟨count, hcount⟩ | hfarther
  · rw [hcount, gap_multiple, gap_multiple] at htie
    refine roundHalfEven_even_of_tie (step_pos total hdenominator) ?_ htie
    rintro rfl
    exact hunits hcount
  · exact absurd htie hfarther.ne'

/-- If a word on the other side of zero is as near, it is zero, and the significand is even. -/
theorem significandOf_even_of_other_side (hdenominator : 0 < denominator) {y : Binary64}
    (htie : y.units * denominator + total =
      gap (significandOf total denominator * 2 ^ scaleOf total denominator) denominator total) :
    significandOf total denominator % 2 = 0 := by
  have hbound := gap_le_total total hdenominator
  have hproduct : y.units * denominator = 0 := by omega
  by_cases hunits : y.units = significandOf total denominator * 2 ^ scaleOf total denominator
  · have hzero : significandOf total denominator * 2 ^ scaleOf total denominator = 0 := by
      rw [← hunits]
      exact (Nat.mul_eq_zero.mp hproduct).resolve_right hdenominator.ne'
    rw [(Nat.mul_eq_zero.mp hzero).resolve_right (Nat.two_pow_pos _).ne']
  · refine significandOf_even_of_tie hdenominator hunits ?_
    rw [← htie, gap, hproduct]
    omega

/-- A word on the side of the quotient is as far from it as their magnitudes are. -/
theorem distance_of_isNegative_eq {y : Binary64} (hsign : y.isNegative = negative) :
    y.distance (signed negative numerator) denominator =
      gap y.units denominator (numerator * unitsPerOne) := by
  unfold distance gap signedUnits
  rw [hsign]
  generalize unitsPerOne = one
  cases negative <;> simp [signed]
  omega

/-- A word on the other side is as far from a quotient as their magnitudes add up to. -/
theorem distance_of_isNegative_ne {y : Binary64} (hsign : y.isNegative ≠ negative) :
    y.distance (signed negative numerator) denominator =
      y.units * denominator + numerator * unitsPerOne := by
  unfold distance signedUnits
  rw [Bool.eq_not_of_ne hsign]
  generalize unitsPerOne = one
  cases negative <;> simp [signed] <;> omega

theorem magnitudeOfRatio_eq : magnitudeOfRatio numerator denominator =
    min infinityMagnitude (scaleOf (numerator * unitsPerOne) denominator * 0x10000000000000 +
      significandOf (numerator * unitsPerOne) denominator) := rfl

theorem magnitudeOfRatio_small :
    magnitudeOfRatio numerator denominator < 0x8000000000000000 := by
  have hmin := Nat.min_le_left infinityMagnitude
    (scaleOf (numerator * unitsPerOne) denominator * 0x10000000000000 +
      significandOf (numerator * unitsPerOne) denominator)
  rw [magnitudeOfRatio_eq]
  unfold infinityMagnitude at hmin ⊢
  omega

theorem isFinite_ofRatio : (ofRatio negative numerator denominator).isFinite = true ↔
    scaleOf (numerator * unitsPerOne) denominator * 0x10000000000000 +
      significandOf (numerator * unitsPerOne) denominator < infinityMagnitude := by
  unfold ofRatio
  rw [isFinite_ofMagnitude magnitudeOfRatio_small, magnitudeOfRatio_eq]
  omega

/-- What a quotient is rounded to, if it is rounded to a finite word. -/
theorem units_ofRatio (hdenominator : 0 < denominator)
    (hfinite : (ofRatio negative numerator denominator).isFinite = true) :
    (ofRatio negative numerator denominator).units =
        significandOf (numerator * unitsPerOne) denominator *
          2 ^ scaleOf (numerator * unitsPerOne) denominator ∧
      (ofRatio negative numerator denominator).significand % 2 =
        significandOf (numerator * unitsPerOne) denominator % 2 := by
  have hsmall := isFinite_ofRatio.mp hfinite
  unfold ofRatio
  rw [magnitudeOfRatio_eq, Nat.min_eq_right hsmall.le]
  exact units_ofMagnitude (isSignificand_significandOf _ hdenominator) hsmall

theorem isNegative_ofRatio : (ofRatio negative numerator denominator).isNegative = negative :=
  isNegative_ofMagnitude magnitudeOfRatio_small

/-- A quotient is rounded to a nearest double, if it is rounded to a finite one. -/
theorem isNearest_ofRatio (hdenominator : 0 < denominator)
    (hfinite : (ofRatio negative numerator denominator).isFinite = true) :
    (ofRatio negative numerator denominator).IsNearest (signed negative numerator) denominator := by
  obtain ⟨hunits, heven⟩ := units_ofRatio hdenominator hfinite
  have hdistance : (ofRatio negative numerator denominator).distance (signed negative numerator)
      denominator = gap _ denominator (numerator * unitsPerOne) :=
    distance_of_isNegative_eq isNegative_ofRatio
  rw [hunits] at hdistance
  refine ⟨hfinite, fun y _ => ?_, fun y _ hother htie => ?_⟩
  · rw [hdistance]
    -- A double of the other sign lies beyond zero, which is no nearer than the rounded one.
    by_cases hsign : y.isNegative = negative
    · rw [distance_of_isNegative_eq hsign]
      exact gap_le _ hdenominator y
    · rw [distance_of_isNegative_ne hsign]
      exact (gap_le_total _ hdenominator).trans (Nat.le_add_left _ _)
  · rw [heven]
    rw [hdistance] at htie
    by_cases hsign : y.isNegative = negative
    · rw [distance_of_isNegative_eq hsign] at htie
      refine significandOf_even_of_tie hdenominator (fun heq => hother ?_) htie
      rw [signedUnits, signedUnits, hsign, isNegative_ofRatio, hunits, heq]
    · rw [distance_of_isNegative_ne hsign] at htie
      exact significandOf_even_of_other_side hdenominator htie

/-! ## Quotients that are out of range -/

/-- The carry of a significand counts as the next scale. -/
theorem lt_infinity_iff (hdenominator : 0 < denominator) (top : Nat) :
    scaleOf total denominator * 0x10000000000000 + significandOf total denominator <
        (top + 2) * 0x10000000000000 ↔
      2 * total < 0x3FFFFFFFFFFFFF * (denominator * 2 ^ top) := by
  obtain ⟨hle, hleading⟩ := isSignificand_significandOf total hdenominator
  have hupper := total_lt_scaleOf total hdenominator
  rcases Nat.lt_trichotomy (scaleOf total denominator) top with hless | heq | hmore
  · have hstep : 2 * (denominator * 2 ^ scaleOf total denominator) ≤ denominator * 2 ^ top := by
      rw [Nat.mul_left_comm, ← Nat.pow_succ']
      exact Nat.mul_le_mul_left _ (Nat.pow_le_pow_right Nat.two_pos hless)
    omega
  · -- At the last scale the number half-way is rounded up, since its quotient is odd.
    have hstep := step_pos total hdenominator
    have htotal := Nat.div_add_mod' total (denominator * 2 ^ scaleOf total denominator)
    have hrest := Nat.mod_lt total hstep
    have hquotient : total / (denominator * 2 ^ scaleOf total denominator) < 0x20000000000000 :=
      (Nat.div_lt_iff_lt_mul hstep).mpr hupper
    rw [significandOf, roundHalfEven]
    rw [heq] at *
    generalize denominator * 2 ^ top = step at *
    rcases Nat.lt_or_ge (total / step) 0x1FFFFFFFFFFFFF with hbelow | hlast
    · have hnext : (total / step + 1) * step ≤ 0x1FFFFFFFFFFFFF * step :=
        Nat.mul_le_mul_right step hbelow
      rw [Nat.succ_mul] at hnext
      split <;> omega
    · have hquotient : total / step = 0x1FFFFFFFFFFFFF := by omega
      rw [hquotient] at htotal ⊢
      split <;> omega
  · have hlower := le_total_of_scaleOf hdenominator (show scaleOf total denominator ≠ 0 by omega)
    have hstep : 2 * (denominator * 2 ^ top) ≤ denominator * 2 ^ scaleOf total denominator := by
      rw [Nat.mul_left_comm, ← Nat.pow_succ']
      exact Nat.mul_le_mul_left _ (Nat.pow_le_pow_right Nat.two_pos hmore)
    omega

/-- The number half-way between the largest finite double and the next power of two. -/
def overflow : Nat :=
  0x3FFFFFFFFFFFFF * Nat.pow 2 970

/-- A quotient is rounded to a finite double if it is not as large as that number. -/
theorem isFinite_ofRatio_iff (hdenominator : 0 < denominator) :
    (ofRatio negative numerator denominator).isFinite = true ↔
      numerator < overflow * denominator := by
  have hpower : ∀ places, 2 ^ (1074 + places + 1) = 2 * unitsPerOne * Nat.pow 2 places := by
    intro places
    unfold unitsPerOne
    generalize 1074 = shift
    rw [Nat.pow_eq, Nat.pow_eq, ← Nat.pow_succ', ← Nat.pow_add, Nat.add_right_comm]
  rw [isFinite_ofRatio, show infinityMagnitude = (1074 + 970 + 1 + 2) * 0x10000000000000 from rfl,
    lt_infinity_iff hdenominator, hpower 970, overflow]
  have hunits : 0 < 2 * unitsPerOne := Nat.mul_pos Nat.two_pos unitsPerOne_pos
  generalize unitsPerOne = units at *
  generalize Nat.pow 2 970 = power at *
  rw [show 2 * (numerator * units) = 2 * units * numerator by ring,
    show 0x3FFFFFFFFFFFFF * (denominator * (2 * units * power)) =
      2 * units * (0x3FFFFFFFFFFFFF * power * denominator) by ring]
  exact Nat.mul_lt_mul_left hunits

end Ratio

/-! ## Whole numbers as doubles -/

section Whole

variable {negative : Bool} {magnitude : Nat}

theorem overflow_pos : 0 < overflow := by
  decide +kernel

/-- Every number in the range of the doubles has at most four hundred digits. -/
theorem length_natDigits_le (hrange : magnitude < overflow) :
    (Text.natDigits magnitude).length ≤ 400 := by
  have hdigits : overflow < 10 ^ 400 := by decide +kernel
  generalize hplaces : 400 = places at *
  exact (Nat.length_toDigits_le_iff (by decide) (by omega)).mpr (hrange.trans hdigits)

/-- A whole number is rounded like any other quotient, or it is out of range anyway. -/
theorem ofDecimal_whole (negative : Bool) (hzero : magnitude ≠ 0) :
    ofDecimal negative magnitude 0 = ofRatio negative magnitude 1 ∨
      (overflow ≤ magnitude ∧ ofDecimal negative magnitude 0 = infinity negative) := by
  unfold ofDecimal
  simp only [hzero, if_false]
  split
  next hplaces =>
    refine .inr ⟨Nat.le_of_not_lt fun hrange => ?_, rfl⟩
    have hlength := length_natDigits_le hrange
    omega
  next =>
    rw [if_neg (by omega), if_neg (by decide)]
    exact .inl (by simp)

theorem isFinite_ofRatio_one_iff :
    (ofRatio negative magnitude 1).isFinite = true ↔ magnitude < overflow := by
  rw [isFinite_ofRatio_iff Nat.one_pos, Nat.mul_one]

/-- The double nearest to a whole number of sixty-four bits is finite. -/
theorem isFinite_ofInt {value : Int} (hlower : 0 ≤ value) (hupper : value < 0x10000000000000000) :
    (ofInt value).isFinite = true := by
  have hmagnitude : value.natAbs < 0x10000000000000000 := by omega
  have hoverflow : 0x10000000000000000 < overflow := by decide +kernel
  exact isFinite_ofRatio_one_iff.mpr (hmagnitude.trans hoverflow)

/-- A whole number in the range of the doubles is rounded to a nearest one. -/
theorem isNearest_ofDecimal_whole (negative : Bool) (hzero : magnitude ≠ 0)
    (hrange : magnitude < overflow) :
    (ofDecimal negative magnitude 0).IsNearest (signed negative magnitude) 1 := by
  rcases ofDecimal_whole negative hzero with heq | ⟨hlarge, -⟩
  · rw [heq]
    exact isNearest_ofRatio Nat.one_pos (isFinite_ofRatio_one_iff.mpr hrange)
  · exact absurd hrange hlarge.not_gt

/-- A whole number beyond the doubles becomes an infinity. -/
theorem isFinite_ofDecimal_whole_of_le (hrange : overflow ≤ magnitude) :
    (ofDecimal negative magnitude 0).isFinite = false := by
  have hzero : magnitude ≠ 0 := (overflow_pos.trans_le hrange).ne'
  rcases ofDecimal_whole negative hzero with heq | ⟨-, heq⟩
  · rw [heq, Bool.eq_false_iff, Ne, isFinite_ofRatio_one_iff]
    exact hrange.not_gt
  · rw [heq]
    cases negative <;> rfl

end Whole

end ListQuery.Binary64
