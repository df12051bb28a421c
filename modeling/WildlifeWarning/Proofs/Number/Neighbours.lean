import WildlifeWarning.Proofs.Number.Rounding

/-! Neighbours on the number line.
What lies below the middle between two neighbours is rounded to no more than the lower one. A factor
below one takes more than half the distance to its lower neighbour away from every number above the
least normal one, so such a product is never rounded back up. The least normal number and those
below it can stall: there a factor just below one takes away half the distance or less. -/

namespace WildlifeWarning

theorem roundHalfEven_le_of_lt_half {num den bound : Nat} (pos : 0 < den)
    (h : 2 * num < (2 * bound + 1) * den) : roundHalfEven num den ≤ bound := by
  have expand : (2 * bound + 1) * den = 2 * (bound * den) + den := by ring
  by_cases below : num < bound * den
  · exact roundHalfEven_le pos below
  · have floor : num / den = bound := by
      refine Nat.div_eq_of_lt_le (by omega) ?_
      rw [Nat.succ_mul]
      omega
    have parts := Nat.div_add_mod' num den
    have lt : compare (2 * (num % den)) den = .lt := by
      rw [Nat.compare_eq_lt]
      rw [floor] at parts
      omega
    simp only [roundHalfEven, lt, floor, Nat.le_refl]

namespace BinaryFormat

variable {f : BinaryFormat} {num den code : Nat}

/-- A code as a multiple of its spacing, the same spacing up to its upper neighbour. -/
theorem exists_spacing (f : BinaryFormat) (code : Nat) :
    ∃ exponent significand, code = exponent * f.binade + significand ∧
      f.units code = significand <<< exponent ∧
      f.units (code + 1) = (significand + 1) <<< exponent ∧
      significand < 2 * f.binade ∧ (exponent = 0 ∨ f.binade ≤ significand) := by
  by_cases small : code < f.binade
  · refine ⟨0, code, by omega, units_of_lt small, ?_, by omega, .inl rfl⟩
    by_cases next : code + 1 < f.binade
    · exact units_of_lt next
    · have first : code + 1 = (0 + 1) * f.binade + 0 := by omega
      rw [first, units_binade f.binade_pos]
      simp
  · obtain ⟨exponent, fraction, lt, rfl⟩ := exists_binade (Nat.le_of_not_lt small)
    refine ⟨exponent, f.binade + fraction, by ring, units_binade lt, ?_, by omega,
      .inr (Nat.le_add_right _ _)⟩
    by_cases next : fraction + 1 < f.binade
    · exact units_binade next
    · have first : (exponent + 1) * f.binade + fraction + 1 =
          (exponent + 1 + 1) * f.binade + 0 := by
        rw [Nat.succ_mul (exponent + 1)]
        omega
      have full : f.binade + fraction + 1 = 2 * f.binade := by omega
      rw [first, units_binade f.binade_pos, full, Nat.add_zero]
      simp only [Nat.shiftLeft_eq, Nat.pow_succ]
      ring

theorem excess_of_between {exponent significand : Nat} (pos : 0 < den)
    (lt : significand < 2 * f.binade) (full : exponent = 0 ∨ f.binade ≤ significand)
    (above : significand <<< exponent * den ≤ num)
    (below : num < (significand + 1) <<< exponent * den) : f.excess num den = exponent := by
  have lower : significand <<< exponent ≤ num / den := (Nat.le_div_iff_mul_le pos).2 above
  have upper : num / den < (significand + 1) <<< exponent := (Nat.div_lt_iff_lt_mul pos).2 below
  have upper : num / den < 2 ^ (f.fractionBits + exponent + 1) := by
    calc num / den < (significand + 1) * 2 ^ exponent := by rwa [← Nat.shiftLeft_eq]
      _ ≤ 2 * f.binade * 2 ^ exponent := Nat.mul_le_mul_right _ lt
      _ = 2 ^ (f.fractionBits + exponent + 1) := by
        simp only [binade, Nat.shiftLeft_eq, Nat.pow_add]
        ring
  rcases full with rfl | full
  · by_cases zero : num / den = 0
    · simp [excess, zero]
    · have := (Nat.log2_lt zero).2 upper
      simp only [excess]
      omega
  · have lower : 2 ^ (f.fractionBits + exponent) ≤ num / den := by
      calc 2 ^ (f.fractionBits + exponent) = f.binade * 2 ^ exponent := by
            simp only [binade, Nat.shiftLeft_eq, Nat.pow_add, Nat.one_mul]
        _ ≤ significand * 2 ^ exponent := Nat.mul_le_mul_right _ full
        _ ≤ num / den := by rwa [← Nat.shiftLeft_eq]
    have nonzero : num / den ≠ 0 := by
      have := Nat.two_pow_pos (f.fractionBits + exponent)
      omega
    rw [excess, (Nat.log2_eq_iff nonzero).2 ⟨lower, upper⟩, Nat.add_sub_cancel_left]

theorem nearest_le_of_lt_middle (pos : 0 < den)
    (h : 2 * num < (f.units code + f.units (code + 1)) * den) : f.nearest num den ≤ code := by
  by_cases infinite : f.infinity ≤ code
  · exact Nat.le_trans (f.nearest_le num den) infinite
  have le : code ≤ f.infinity := Nat.le_of_lt (Nat.lt_of_not_le infinite)
  by_cases under : num ≤ f.units code * den
  · calc f.nearest num den ≤ f.nearest (f.units code * den) den := nearest_mono pos under
      _ = code := nearest_units pos le
  · obtain ⟨exponent, significand, split, this, next, lt, full⟩ := f.exists_spacing code
    rw [this, next] at h
    rw [this] at under
    have middle : 2 * num < (2 * significand + 1) * (den <<< exponent) := by
      calc 2 * num < (significand <<< exponent + (significand + 1) <<< exponent) * den := h
        _ = (2 * significand + 1) * (den <<< exponent) := by
          simp only [Nat.shiftLeft_eq]
          ring
    have below : num < (significand + 1) <<< exponent * den := by
      have double : (2 * significand + 1) * (den <<< exponent) ≤
          2 * ((significand + 1) <<< exponent * den) := by
        calc (2 * significand + 1) * (den <<< exponent)
            ≤ (2 * (significand + 1)) * (den <<< exponent) :=
              Nat.mul_le_mul_right _ (by omega)
          _ = 2 * ((significand + 1) <<< exponent * den) := by
            simp only [Nat.shiftLeft_eq]
            ring
      omega
    rw [nearest_eq, excess_of_between pos lt full (by omega) below, split]
    refine Nat.le_trans (Nat.min_le_left _ _) (Nat.add_le_add_left ?_ _)
    exact roundHalfEven_le_of_lt_half (shiftLeft_pos pos exponent) middle

theorem nearest_mul_lt {factor : Nat} (normal : f.binade < code)
    (short : 2 * f.binade * factor ≤ (2 * f.binade - 1) * f.unitsPerOne) :
    f.nearest (f.units code * factor) f.unitsPerOne < code := by
  obtain ⟨lower, rfl⟩ : ∃ lower, code = lower + 1 := ⟨code - 1, by omega⟩
  refine Nat.lt_succ_of_le (nearest_le_of_lt_middle f.unitsPerOne_pos ?_)
  obtain ⟨exponent, significand, split, own, next, -, full⟩ := f.exists_spacing lower
  have full : f.binade ≤ significand := by
    rcases full with rfl | full
    · omega
    · exact full
  -- The factor takes away more than half a spacing, as the number has more than `binade` of them.
  have taken : (significand + 1) * (2 * f.binade - 1) < f.binade * (2 * significand + 1) := by
    have whole : (significand + 1) * (2 * f.binade) =
        f.binade * (2 * significand + 1) + f.binade := by ring
    have parts : (significand + 1) * (2 * f.binade - 1) + (significand + 1) =
        (significand + 1) * (2 * f.binade) := by
      rw [← Nat.mul_succ, Nat.succ_eq_add_one, Nat.sub_add_cancel]
      have := f.binade_pos
      omega
    omega
  rw [own, next, Nat.shiftLeft_eq, Nat.shiftLeft_eq]
  refine Nat.lt_of_mul_lt_mul_left (a := f.binade) ?_
  calc f.binade * (2 * ((significand + 1) * 2 ^ exponent * factor))
      = (significand + 1) * 2 ^ exponent * (2 * f.binade * factor) := by ring
    _ ≤ (significand + 1) * 2 ^ exponent * ((2 * f.binade - 1) * f.unitsPerOne) :=
        Nat.mul_le_mul_left _ short
    _ = (significand + 1) * (2 * f.binade - 1) * (2 ^ exponent * f.unitsPerOne) := by ring
    _ < f.binade * (2 * significand + 1) * (2 ^ exponent * f.unitsPerOne) :=
        Nat.mul_lt_mul_of_pos_right taken
          (Nat.mul_pos (Nat.two_pow_pos exponent) f.unitsPerOne_pos)
    _ = f.binade * ((significand * 2 ^ exponent + (significand + 1) * 2 ^ exponent) *
          f.unitsPerOne) := by ring

end BinaryFormat

namespace Binary

/-- The least number with all bits of its significand, two to the power of minus 126. -/
def leastNormal : Single := number false 0x00800000 (by decide)

theorem mul_lt_left {x y : Single} (normal : leastNormal < x) (finite : x < infinity false)
    (hy : 0 < y) (one : y < 1) : x * y < x := by
  have positive : (0 : Single) < leastNormal := by decide
  obtain ⟨a, ha, rfl, -⟩ := pos_iff.1 (lt_of_lt_of_le positive (le_of_lt normal))
  obtain ⟨b, hb, rfl, -⟩ := pos_iff.1 hy
  rw [single_one_eq, number_lt_number_iff] at one
  have a_lt : a < BinaryFormat.single.infinity := number_lt_number_iff.1 finite
  have b_ne : b ≠ BinaryFormat.single.infinity := by
    have : BinaryFormat.single.infinity = 0x7f800000 := by decide
    omega
  have short : 2 * BinaryFormat.single.binade * BinaryFormat.single.units b ≤
      (2 * BinaryFormat.single.binade - 1) * BinaryFormat.single.unitsPerOne := by
    calc 2 * BinaryFormat.single.binade * BinaryFormat.single.units b
        ≤ 2 * BinaryFormat.single.binade * BinaryFormat.single.units 0x3f7fffff :=
          Nat.mul_le_mul_left _
            ((BinaryFormat.units_le_units_iff hb (by decide)).2 (Nat.le_of_lt_succ one))
      _ ≤ (2 * BinaryFormat.single.binade - 1) * BinaryFormat.single.unitsPerOne := by decide
  rw [mul_number (Nat.ne_of_lt a_lt) b_ne]
  exact number_lt_number_iff.2
    (BinaryFormat.nearest_mul_lt (number_lt_number_iff.1 normal) short)

end Binary

end WildlifeWarning
