import Mathlib.Data.Nat.Log
import Mathlib.Tactic.Ring
import WildlifeWarning.Number.Binary

/-! Rounding keeps order, and a number of the format is its own nearest.
The order of the codes is therefore the order of the numbers, and a product with a factor of at most
one is rounded to no more than the other factor. -/

namespace WildlifeWarning

theorem le_roundHalfEven {num den bound : Nat} (pos : 0 < den) (h : bound * den ≤ num) :
    bound ≤ roundHalfEven num den := by
  have floor : bound ≤ num / den := (Nat.le_div_iff_mul_le pos).2 h
  simp only [roundHalfEven]
  split <;> omega

theorem roundHalfEven_le {num den bound : Nat} (pos : 0 < den) (h : num < bound * den) :
    roundHalfEven num den ≤ bound := by
  have floor : num / den < bound := (Nat.div_lt_iff_lt_mul pos).2 h
  simp only [roundHalfEven]
  split <;> omega

theorem roundHalfEven_mono {a b den : Nat} (pos : 0 < den) (h : a ≤ b) :
    roundHalfEven a den ≤ roundHalfEven b den := by
  by_cases apart : a / den < b / den
  · have next : a < (a / den + 1) * den := by
      rw [Nat.mul_comm]
      exact Nat.lt_mul_div_succ a pos
    calc roundHalfEven a den ≤ a / den + 1 := roundHalfEven_le pos next
      _ ≤ roundHalfEven b den :=
          le_roundHalfEven pos
            (Nat.le_trans (Nat.mul_le_mul_right den apart) (Nat.div_mul_le_self b den))
  · -- Both lie between the same neighbours, so only the remainders differ.
    have floors : a / den = b / den :=
      Nat.le_antisymm (Nat.div_le_div_right h) (Nat.not_lt.1 apart)
    have remainders : a % den ≤ b % den := by
      have ha := Nat.div_add_mod a den
      have hb := Nat.div_add_mod b den
      rw [floors] at ha
      omega
    simp only [roundHalfEven, floors]
    cases left : compare (2 * (a % den)) den <;> cases right : compare (2 * (b % den)) den <;>
      simp only [Nat.compare_eq_lt, Nat.compare_eq_eq, Nat.compare_eq_gt] at left right ⊢ <;> omega

namespace BinaryFormat

variable {f : BinaryFormat} {num den a b : Nat}

/-- How many of its lowest bits a quotient gives up. -/
def excess (f : BinaryFormat) (num den : Nat) : Nat := (num / den).log2 - f.fractionBits

theorem nearest_eq (f : BinaryFormat) (num den : Nat) :
    f.nearest num den = min (f.excess num den * f.binade +
      roundHalfEven num (den <<< f.excess num den)) f.infinity := rfl

theorem shiftLeft_pos (pos : 0 < den) (n : Nat) : 0 < den <<< n := by
  rw [Nat.shiftLeft_eq]
  exact Nat.mul_pos pos (Nat.two_pow_pos n)

/-- What is left of the quotient has at most one bit more than the fraction. -/
theorem lt_excess (pos : 0 < den) : num < 2 * f.binade * (den <<< f.excess num den) := by
  have bits : (num / den).log2 + 1 ≤ f.fractionBits + f.excess num den + 1 := by
    simp only [excess]
    omega
  calc num < den * (num / den + 1) := Nat.lt_mul_div_succ num pos
    _ ≤ den * 2 ^ ((num / den).log2 + 1) := Nat.mul_le_mul_left den Nat.lt_log2_self
    _ ≤ den * 2 ^ (f.fractionBits + f.excess num den + 1) :=
        Nat.mul_le_mul_left den (Nat.pow_le_pow_right (by decide) bits)
    _ = 2 * f.binade * (den <<< f.excess num den) := by
        simp only [binade, Nat.shiftLeft_eq, Nat.pow_add]
        ring

theorem excess_le (some : f.excess num den ≠ 0) : f.binade * (den <<< f.excess num den) ≤ num := by
  have bits : f.fractionBits + f.excess num den = (num / den).log2 := by
    simp only [excess] at some ⊢
    omega
  have nonzero : num / den ≠ 0 := by
    intro zero
    simp [excess, zero] at some
  calc f.binade * (den <<< f.excess num den) = 2 ^ (num / den).log2 * den := by
        rw [← bits]
        simp only [binade, Nat.shiftLeft_eq, Nat.pow_add]
        ring
    _ ≤ num / den * den := Nat.mul_le_mul_right den (Nat.log2_self_le nonzero)
    _ ≤ num := Nat.div_mul_le_self num den

theorem excess_mono (h : a ≤ b) : f.excess a den ≤ f.excess b den := by
  have bits : (a / den).log2 ≤ (b / den).log2 := by
    rw [Nat.log2_eq_log_two, Nat.log2_eq_log_two]
    exact Nat.log_mono_right (Nat.div_le_div_right h)
  simp only [excess]
  omega

theorem nearest_mono (pos : 0 < den) (h : a ≤ b) : f.nearest a den ≤ f.nearest b den := by
  rw [nearest_eq, nearest_eq]
  refine min_le_min_right f.infinity ?_
  have shifts : f.excess a den ≤ f.excess b den := excess_mono h
  rcases Nat.eq_or_lt_of_le shifts with same | fewer
  · rw [same]
    exact Nat.add_le_add_left (roundHalfEven_mono (shiftLeft_pos pos _) h) _
  · -- The power of two at which the higher binade starts lies in between.
    have below : roundHalfEven a (den <<< f.excess a den) ≤ 2 * f.binade :=
      roundHalfEven_le (shiftLeft_pos pos _) (lt_excess pos)
    have above : f.binade ≤ roundHalfEven b (den <<< f.excess b den) :=
      le_roundHalfEven (shiftLeft_pos pos _) (excess_le (by omega))
    calc f.excess a den * f.binade + roundHalfEven a (den <<< f.excess a den)
        ≤ (f.excess a den + 1) * f.binade + f.binade := by
          rw [Nat.succ_mul]
          omega
      _ ≤ f.excess b den * f.binade + roundHalfEven b (den <<< f.excess b den) :=
          Nat.add_le_add (Nat.mul_le_mul_right _ fewer) above

theorem exists_binade {code : Nat} (normal : f.binade ≤ code) :
    ∃ exponent fraction, fraction < f.binade ∧ code = (exponent + 1) * f.binade + fraction := by
  have leading : 1 ≤ code / f.binade :=
    (Nat.le_div_iff_mul_le f.binade_pos).2 (by omega)
  refine ⟨code / f.binade - 1, code % f.binade, Nat.mod_lt code f.binade_pos, ?_⟩
  rw [Nat.sub_add_cancel leading, Nat.div_add_mod']

theorem units_binade {exponent fraction : Nat} (lt : fraction < f.binade) :
    f.units ((exponent + 1) * f.binade + fraction) = (f.binade + fraction) <<< exponent := by
  have large : ¬(exponent + 1) * f.binade + fraction < f.binade := by
    rw [Nat.succ_mul]
    omega
  have quotient : ((exponent + 1) * f.binade + fraction) / f.binade = exponent + 1 := by
    rw [Nat.mul_comm, Nat.mul_add_div f.binade_pos, Nat.div_eq_of_lt lt, Nat.add_zero]
  have remainder : ((exponent + 1) * f.binade + fraction) % f.binade = fraction := by
    rw [Nat.mul_comm, Nat.mul_add_mod, Nat.mod_eq_of_lt lt]
  simp only [units, large, if_false, quotient, remainder, Nat.add_sub_cancel]

theorem excess_units_binade {exponent fraction : Nat} (pos : 0 < den)
    (lt : fraction < f.binade) :
    f.excess ((f.binade + fraction) <<< exponent * den) den = exponent := by
  have bits : ((f.binade + fraction) <<< exponent).log2 = f.fractionBits + exponent := by
    have nonzero : (f.binade + fraction) <<< exponent ≠ 0 := by
      have := shiftLeft_pos (Nat.add_pos_left f.binade_pos fraction) exponent
      omega
    rw [Nat.log2_eq_iff nonzero]
    simp only [binade, Nat.shiftLeft_eq, Nat.one_mul, Nat.pow_add, Nat.pow_one] at lt ⊢
    constructor
    · exact Nat.mul_le_mul_right _ (Nat.le_add_right _ _)
    · calc (2 ^ f.fractionBits + fraction) * 2 ^ exponent
          < (2 ^ f.fractionBits * 2) * 2 ^ exponent :=
            Nat.mul_lt_mul_of_pos_right (by omega) (Nat.two_pow_pos exponent)
        _ = 2 ^ f.fractionBits * 2 ^ exponent * 2 := by ring
  rw [excess, Nat.mul_div_cancel _ pos, bits, Nat.add_sub_cancel_left]

theorem excess_of_lt {code : Nat} (pos : 0 < den) (lt : code < f.binade) :
    f.excess (code * den) den = 0 := by
  rw [excess, Nat.mul_div_cancel _ pos, Nat.sub_eq_zero_iff_le]
  rcases Nat.eq_zero_or_pos code with rfl | nonzero
  · simp
  · refine Nat.le_of_lt ((Nat.log2_lt (by omega)).2 ?_)
    simpa [binade, Nat.shiftLeft_eq] using lt

theorem roundHalfEven_mul {n den : Nat} (pos : 0 < den) : roundHalfEven (n * den) den = n := by
  rw [roundHalfEven_of_dvd pos (Nat.dvd_mul_left den n), Nat.mul_div_cancel n pos]

theorem nearest_units {code : Nat} (pos : 0 < den) (le : code ≤ f.infinity) :
    f.nearest (f.units code * den) den = code := by
  rw [nearest_eq]
  by_cases small : code < f.binade
  · rw [units_of_lt small, excess_of_lt pos small, Nat.shiftLeft_zero, roundHalfEven_mul pos,
      Nat.zero_mul, Nat.zero_add, Nat.min_eq_left le]
  · obtain ⟨exponent, fraction, lt, rfl⟩ := exists_binade (Nat.le_of_not_lt small)
    have scaled : (f.binade + fraction) <<< exponent * den =
        (f.binade + fraction) * (den <<< exponent) := by
      simp only [Nat.shiftLeft_eq]
      ring
    rw [units_binade lt, excess_units_binade pos lt, scaled,
      roundHalfEven_mul (shiftLeft_pos pos exponent), Nat.min_eq_left]
    · ring
    · calc exponent * f.binade + (f.binade + fraction)
          = (exponent + 1) * f.binade + fraction := by ring
        _ ≤ f.infinity := le

theorem units_le_units_iff (ha : a ≤ f.infinity) (hb : b ≤ f.infinity) :
    f.units a ≤ f.units b ↔ a ≤ b := by
  have reflects : ∀ x y, x ≤ f.infinity → y ≤ f.infinity → f.units x ≤ f.units y → x ≤ y := by
    intro x y hx hy le
    have rounded : f.nearest (f.units x * 1) 1 ≤ f.nearest (f.units y * 1) 1 :=
      nearest_mono Nat.one_pos (Nat.mul_le_mul_right 1 le)
    rwa [nearest_units Nat.one_pos hx, nearest_units Nat.one_pos hy] at rounded
  constructor
  · exact reflects a b ha hb
  · intro le
    by_cases same : f.units a ≤ f.units b
    · exact same
    · have back := reflects b a hb ha (by omega)
      rw [Nat.le_antisymm le back]

theorem nearest_mul_le {factor : Nat} (le : a ≤ f.infinity) (factor_le : factor ≤ f.unitsPerOne) :
    f.nearest (f.units a * factor) f.unitsPerOne ≤ a := by
  calc f.nearest (f.units a * factor) f.unitsPerOne
      ≤ f.nearest (f.units a * f.unitsPerOne) f.unitsPerOne :=
        nearest_mono f.unitsPerOne_pos (Nat.mul_le_mul_left _ factor_le)
    _ = a := nearest_units f.unitsPerOne_pos le

end BinaryFormat

namespace Binary

variable {f : BinaryFormat} {x y z : Binary f}

theorem isNaN_eq_false_iff : x.isNaN = false ↔ ∃ rank, x.rank? = some rank := by
  cases x with
  | nan => simp [isNaN, rank?]
  | number negative code le => cases negative <;> simp [isNaN, rank?]

theorem isNaN_left (le : x ≤ y) : x.isNaN = false := by
  obtain ⟨rank, _, ranked, -⟩ := le_iff.1 le
  exact isNaN_eq_false_iff.2 ⟨rank, ranked⟩

theorem isNaN_right (le : x ≤ y) : y.isNaN = false := by
  obtain ⟨_, rank, -, ranked, -⟩ := le_iff.1 le
  exact isNaN_eq_false_iff.2 ⟨rank, ranked⟩

theorem le_self (number : x.isNaN = false) : x ≤ x := by
  obtain ⟨rank, ranked⟩ := isNaN_eq_false_iff.1 number
  exact le_iff.2 ⟨rank, rank, ranked, ranked, Int.le_refl rank⟩

theorem le_of_lt (lt : x < y) : x ≤ y := by
  obtain ⟨a, b, hx, hy, lt⟩ := lt_iff.1 lt
  exact le_iff.2 ⟨a, b, hx, hy, Int.le_of_lt lt⟩

theorem le_trans (xy : x ≤ y) (yz : y ≤ z) : x ≤ z := by
  obtain ⟨a, b, hx, hy, ab⟩ := le_iff.1 xy
  obtain ⟨b', c, hy', hz, bc⟩ := le_iff.1 yz
  obtain rfl : b = b' := Option.some.inj (hy.symm.trans hy')
  exact le_iff.2 ⟨a, c, hx, hz, Int.le_trans ab bc⟩

theorem lt_of_lt_of_le (xy : x < y) (yz : y ≤ z) : x < z := by
  obtain ⟨a, b, hx, hy, ab⟩ := lt_iff.1 xy
  obtain ⟨b', c, hy', hz, bc⟩ := le_iff.1 yz
  obtain rfl : b = b' := Option.some.inj (hy.symm.trans hy')
  exact lt_iff.2 ⟨a, c, hx, hz, Int.lt_of_lt_of_le ab bc⟩

theorem lt_of_le_of_lt (xy : x ≤ y) (yz : y < z) : x < z := by
  obtain ⟨a, b, hx, hy, ab⟩ := le_iff.1 xy
  obtain ⟨b', c, hy', hz, bc⟩ := lt_iff.1 yz
  obtain rfl : b = b' := Option.some.inj (hy.symm.trans hy')
  exact lt_iff.2 ⟨a, c, hx, hz, Int.lt_of_le_of_lt ab bc⟩

theorem lt_irrefl (x : Binary f) : ¬x < x := by
  intro lt
  obtain ⟨a, b, hx, hx', ab⟩ := lt_iff.1 lt
  obtain rfl : a = b := Option.some.inj (hx.symm.trans hx')
  exact Int.lt_irrefl a ab

theorem le_of_not_lt (hx : x.isNaN = false) (hy : y.isNaN = false) (h : ¬x < y) : y ≤ x := by
  obtain ⟨a, hx⟩ := isNaN_eq_false_iff.1 hx
  obtain ⟨b, hy⟩ := isNaN_eq_false_iff.1 hy
  refine le_iff.2 ⟨b, a, hy, hx, ?_⟩
  by_cases ordered : a < b
  · exact absurd (lt_iff.2 ⟨a, b, hx, hy, ordered⟩) h
  · exact Int.not_lt.1 ordered

/-! Where one operand is a number, so is the smaller and the larger of the two. -/

theorem least_le (number : y.isNaN = false) : x.least y ≤ y := by
  unfold least
  split
  · exact le_self number
  · next left =>
    split
    · exact le_self number
    · next order => exact le_of_not_lt number (by simpa using left) order

theorem le_greatest (number : y.isNaN = false) : y ≤ x.greatest y := by
  unfold greatest
  split
  · exact le_self number
  · next left =>
    split
    · exact le_self number
    · next order => exact le_of_not_lt (by simpa using left) number order

theorem greatest_le (xz : x ≤ z) (yz : y ≤ z) : x.greatest y ≤ z := by
  unfold greatest
  split
  · exact yz
  · split
    · exact yz
    · exact xz

theorem greatest_lt (xz : x < z) (yz : y < z) : x.greatest y < z := by
  unfold greatest
  split
  · exact yz
  · split
    · exact yz
    · exact xz

@[simp] theorem rank?_zero (f : BinaryFormat) : (0 : Binary f).rank? = some 0 := by
  have nearest : f.nearest (0 * f.unitsPerOne) 1 = 0 := by
    rw [Nat.zero_mul]
    simpa using BinaryFormat.nearest_units (f := f) Nat.one_pos (Nat.zero_le _)
  change (rounded false (0 * f.unitsPerOne) 1 : Binary f).rank? = _
  simp only [rounded, rank?, nearest]
  rfl

theorem pos_iff : 0 < x ↔ ∃ code le, x = number false code le ∧ 0 < code := by
  constructor
  · intro pos
    obtain ⟨_, rank, zero, ranked, pos⟩ := lt_iff.1 pos
    obtain rfl := Option.some.inj ((rank?_zero f).symm.trans zero)
    cases x with
    | nan => contradiction
    | number negative code le =>
      cases negative with
      | false =>
        obtain rfl := Option.some.inj ranked
        exact ⟨code, le, rfl, by omega⟩
      | true =>
        obtain rfl := Option.some.inj ranked
        omega
  · rintro ⟨code, le, rfl, pos⟩
    exact lt_iff.2 ⟨0, code, rank?_zero f, rfl, by omega⟩

theorem number_lt_number_iff {a b : Nat} {ha : a ≤ f.infinity} {hb : b ≤ f.infinity} :
    (number false a ha : Binary f) < number false b hb ↔ a < b := by
  rw [lt_iff]
  constructor
  · rintro ⟨_, _, left, right, lt⟩
    obtain rfl := Option.some.inj left
    obtain rfl := Option.some.inj right
    exact Int.ofNat_lt.1 lt
  · exact fun lt => ⟨a, b, rfl, rfl, Int.ofNat_lt.2 lt⟩

theorem number_le_number_iff {a b : Nat} {ha : a ≤ f.infinity} {hb : b ≤ f.infinity} :
    (number false a ha : Binary f) ≤ number false b hb ↔ a ≤ b := by
  rw [le_iff]
  constructor
  · rintro ⟨_, _, left, right, le⟩
    obtain rfl := Option.some.inj left
    obtain rfl := Option.some.inj right
    exact Int.ofNat_le.1 le
  · exact fun le => ⟨a, b, rfl, rfl, Int.ofNat_le.2 le⟩

theorem toBits_lt (hx : 0 < x) (lt : x < y) : x.toBits < y.toBits := by
  obtain ⟨a, ha, rfl, -⟩ := pos_iff.1 hx
  obtain ⟨b, hb, rfl, -⟩ := pos_iff.1 (lt_of_lt_of_le hx (le_of_lt lt))
  exact number_lt_number_iff.1 lt

theorem toBits_le (hx : 0 < x) (le : x ≤ y) : x.toBits ≤ y.toBits := by
  obtain ⟨a, ha, rfl, -⟩ := pos_iff.1 hx
  obtain ⟨b, hb, rfl, -⟩ := pos_iff.1 (lt_of_lt_of_le hx le)
  exact number_le_number_iff.1 le

theorem eq_of_le_of_not_lt (hx : 0 < x) (le : x ≤ y) (not_lt : ¬x < y) : y = x := by
  obtain ⟨a, ha, rfl, -⟩ := pos_iff.1 hx
  obtain ⟨b, hb, rfl, -⟩ := pos_iff.1 (lt_of_lt_of_le hx le)
  rw [number_le_number_iff] at le
  rw [number_lt_number_iff] at not_lt
  obtain rfl : b = a := by omega
  rfl

theorem single_one_eq : (1 : Single) = number false 0x3f800000 (by decide) := by decide

theorem mul_number {a b : Nat} {ha : a ≤ f.infinity} {hb : b ≤ f.infinity}
    (left : a ≠ f.infinity) (right : b ≠ f.infinity) :
    (number false a ha : Binary f) * number false b hb =
      number false (f.nearest (f.units a * f.units b) f.unitsPerOne) (f.nearest_le _ _) := by
  change mul _ _ = _
  simp [mul, left, right, rounded]

theorem mul_le_left {x y : Single} (hx : 0 < x) (hy : 0 < y) (one : y ≤ 1) : x * y ≤ x := by
  obtain ⟨a, ha, rfl, a_pos⟩ := pos_iff.1 hx
  obtain ⟨b, hb, rfl, b_pos⟩ := pos_iff.1 hy
  rw [single_one_eq, number_le_number_iff] at one
  have finite : b ≠ BinaryFormat.single.infinity := by
    have : BinaryFormat.single.infinity = 0x7f800000 := by decide
    omega
  have factor : BinaryFormat.single.units b ≤ BinaryFormat.single.unitsPerOne := by
    calc BinaryFormat.single.units b ≤ BinaryFormat.single.units 0x3f800000 :=
          (BinaryFormat.units_le_units_iff hb (by decide)).2 one
      _ = BinaryFormat.single.unitsPerOne := by decide
  by_cases infinite : a = BinaryFormat.single.infinity
  · have product : mul (number false a ha : Single) (number false b hb) = infinity false := by
      simp only [mul, infinite, true_or, if_true, Bool.xor_self]
      have : ¬(BinaryFormat.single.infinity = 0 ∨ b = 0) := by omega
      simp only [this, if_false]
    change mul _ _ ≤ _
    rw [product]
    exact number_le_number_iff.2 (Nat.le_of_eq infinite.symm)
  · rw [mul_number infinite finite]
    exact number_le_number_iff.2 (BinaryFormat.nearest_mul_le ha factor)

end Binary

end WildlifeWarning
