import Mathlib.Tactic.Linarith
import Mathlib.Tactic.Ring
import PolicyDesk.Amount.Binary64

/-!
# Rounding to the nearest magnitude

Magnitudes are counted by their rank, and `units` gives the size of a rank. Between the sizes of two ranks
that follow each other lies the midpoint at which rounding changes from the one to the other.

* `units_split`, `units_succ`, `units_strictMono`: the size of a rank, and the step to the next.
* `nearestRank_above`, `nearestRank_below`: a fraction lies between the midpoints around its nearest rank.
* `nearestRank_eq`: so a fraction strictly between the midpoints around a rank is rounded to this rank.
* `nearestRank_scale`, `nearestRank_mono`: rounding depends on the fraction alone, and keeps the order.
* `nearestRank_exact`, `exists_units_eq`: sizes of ranks are rounded to themselves, and every whole number of
  at most 53 binary digits times a power of two is the size of a rank.
-/

namespace PolicyDesk.Binary64

/-! ## The size of a rank -/

/-- A rank as a binade and a place in it. -/
theorem rank_parts {e q : Nat} (low : binade ≤ q) (high : q < 2 * binade) :
    shift (e * binade + q) = e ∧ significand (e * binade + q) = q := by
  unfold shift significand binade at *
  constructor
  · omega
  · rw [if_neg (by omega)]
    omega

theorem rank_parts_of_lt {rank : Nat} (h : rank < binade) : shift rank = 0 ∧ significand rank = rank := by
  constructor
  · rw [shift, Nat.div_eq_of_lt h]
  · rw [significand, if_pos h]

/-- Every rank has a binade and a place in it. -/
theorem exists_rank_parts {rank : Nat} (h : binade ≤ rank) :
    ∃ e q, binade ≤ q ∧ q < 2 * binade ∧ rank = e * binade + q := by
  refine ⟨rank / binade - 1, binade + rank % binade, ?_⟩
  unfold binade at *
  omega

/-- Each binade goes on from the one before: its first size is also the one behind the last of those. -/
theorem units_split {e q : Nat} (low : binade ≤ q ∨ e = 0) (high : q ≤ 2 * binade) :
    units (e * binade + q) = q * 2 ^ e := by
  rcases Nat.lt_or_ge q binade with small | big
  · have zero : e = 0 := by omega
    subst zero
    obtain ⟨place, digits⟩ := rank_parts_of_lt small
    rw [Nat.zero_mul, Nat.zero_add, units, place, digits, Nat.pow_eq]
  · rcases Nat.lt_or_eq_of_le high with inside | last
    · obtain ⟨place, digits⟩ := rank_parts (e := e) big inside
      rw [units, place, digits, Nat.pow_eq]
    · have next : e * binade + q = (e + 1) * binade + binade := by
        rw [last]
        ring
      obtain ⟨place, digits⟩ := rank_parts (e := e + 1) (Nat.le_refl binade) (by decide)
      rw [next, units, place, digits, Nat.pow_eq, last, Nat.pow_succ]
      ring

/-- The next magnitude is larger by one in the last digit. -/
theorem units_succ (rank : Nat) : units (rank + 1) = units rank + 2 ^ shift rank := by
  rcases Nat.lt_or_ge rank binade with small | big
  · have here := units_split (e := 0) (q := rank) (.inr rfl) (by omega)
    have next := units_split (e := 0) (q := rank + 1) (.inr rfl) (by omega)
    rw [Nat.zero_mul, Nat.zero_add] at here next
    rw [here, next, (rank_parts_of_lt small).1]
    omega
  · obtain ⟨e, q, low, high, rfl⟩ := exists_rank_parts big
    have here := units_split (e := e) (q := q) (.inl low) (by omega)
    have next := units_split (e := e) (q := q + 1) (.inl (by omega)) (by omega)
    rw [← Nat.add_assoc] at next
    rw [here, next, (rank_parts low high).1]
    ring

theorem units_lt_succ (rank : Nat) : units rank < units (rank + 1) := by
  rw [units_succ]
  exact Nat.lt_add_of_pos_right (Nat.pow_pos (by decide))

theorem units_strictMono : StrictMono units := strictMono_nat_of_lt_succ units_lt_succ

theorem units_zero : units 0 = 0 := by
  decide

/-- Every whole number of at most 53 binary digits, times a power of two, is the size of a rank. -/
theorem exists_units_eq {m : Nat} (e : Nat) (h : m ≤ 2 * binade) : ∃ rank, units rank = m * 2 ^ e := by
  induction e generalizing m with
  | zero => exact ⟨0 * binade + m, units_split (.inr rfl) h⟩
  | succ e ih =>
    by_cases full : binade ≤ m
    · exact ⟨(e + 1) * binade + m, units_split (.inl full) h⟩
    · obtain ⟨rank, hr⟩ := ih (m := 2 * m) (by omega)
      refine ⟨rank, ?_⟩
      rw [hr, Nat.pow_succ]
      ring

/-! ## Whole numbers near a fraction -/

theorem roundHalfEven_bounds (num : Nat) {den : Nat} (hd : 0 < den) :
    2 * num ≤ (2 * roundHalfEven num den + 1) * den ∧ 2 * roundHalfEven num den * den ≤ 2 * num + den := by
  have parts := Nat.div_add_mod num den
  have small := Nat.mod_lt num hd
  unfold roundHalfEven
  simp only
  generalize num % den = left at *
  generalize num / den = low at *
  have one : (2 * low + 1) * den = 2 * (den * low) + den := by ring
  have two : 2 * low * den = 2 * (den * low) := by ring
  have three : (2 * (low + 1) + 1) * den = 2 * (den * low) + 3 * den := by ring
  have four : 2 * (low + 1) * den = 2 * (den * low) + 2 * den := by ring
  split
  · omega
  · split
    · omega
    · split
      · omega
      · omega

theorem roundHalfEven_scale (num den : Nat) {k : Nat} (hk : 0 < k) :
    roundHalfEven (num * k) (den * k) = roundHalfEven num den := by
  unfold roundHalfEven
  have twice : 2 * (num % den * k) = 2 * (num % den) * k := by ring
  simp only [Nat.mul_div_mul_right _ _ hk, Nat.mul_mod_mul_right, twice, Nat.mul_lt_mul_right hk]

/-! ## The nearest rank -/

/-- Rounding depends on the fraction alone. -/
theorem nearestRank_scale (num den : Nat) {k : Nat} (hk : 0 < k) :
    nearestRank (num * k) (den * k) = nearestRank num den := by
  unfold nearestRank
  have scaled : num * k * unitsPerOne = num * unitsPerOne * k := by ring
  have below : ∀ p, den * k * p = den * p * k := by
    intro p
    ring
  simp only [scaled, below, Nat.mul_div_mul_right _ _ hk, roundHalfEven_scale _ _ hk]

/-- How a fraction is rounded: the binade, the digits in it, and where the fraction lies. -/
theorem nearestRank_parts (num : Nat) {den : Nat} (hd : 0 < den) :
    ∃ e q, nearestRank num den = e * binade + q ∧
      (binade ≤ q ∨ e = 0) ∧ q ≤ 2 * binade ∧
      (0 < e → binade * (den * 2 ^ e) ≤ num * unitsPerOne) ∧
      num * unitsPerOne < 2 * binade * (den * 2 ^ e) ∧
      2 * (num * unitsPerOne) ≤ (2 * q + 1) * (den * 2 ^ e) ∧
      2 * q * (den * 2 ^ e) ≤ 2 * (num * unitsPerOne) + den * 2 ^ e := by
  unfold nearestRank
  generalize num * unitsPerOne = scaled
  simp only [Nat.pow_eq]
  obtain ⟨e, he⟩ : ∃ e, e = (scaled / den).log2 + 1 - 53 := ⟨_, rfl⟩
  rw [← he]
  have hw : 0 < den * 2 ^ e := Nat.mul_pos hd (Nat.pow_pos (by decide))
  have above : scaled < 2 * binade * (den * 2 ^ e) := by
    have top : scaled / den < 2 ^ ((scaled / den).log2 + 1) := Nat.lt_log2_self
    have fits : 2 ^ ((scaled / den).log2 + 1) ≤ 2 ^ (53 + e) := Nat.pow_le_pow_right (by decide) (by omega)
    have bound := (Nat.div_lt_iff_lt_mul hd).mp (Nat.lt_of_lt_of_le top fits)
    calc scaled < 2 ^ (53 + e) * den := bound
      _ = 2 * binade * (den * 2 ^ e) := by rw [Nat.pow_add]; ring
  have below : 0 < e → binade * (den * 2 ^ e) ≤ scaled := by
    intro pos
    have some : scaled / den ≠ 0 := by
      intro zero
      rw [zero] at he
      simp at he
      omega
    have low := Nat.log2_self_le some
    have place : (scaled / den).log2 = 52 + e := by omega
    rw [place] at low
    calc binade * (den * 2 ^ e) = 2 ^ (52 + e) * den := by rw [Nat.pow_add]; ring
      _ ≤ scaled := (Nat.le_div_iff_mul_le hd).mp low
  obtain ⟨up, down⟩ := roundHalfEven_bounds scaled hw
  generalize roundHalfEven scaled (den * 2 ^ e) = q at *
  refine ⟨e, q, rfl, ?_, ?_, below, above, up, down⟩
  · rcases Nat.eq_zero_or_pos e with zero | pos
    · exact .inr zero
    · left
      have start := below pos
      have bound : 2 * binade * (den * 2 ^ e) ≤ (2 * q + 1) * (den * 2 ^ e) := by linarith
      have := Nat.le_of_mul_le_mul_right bound hw
      omega
  · have bound : 2 * q * (den * 2 ^ e) < (4 * binade + 1) * (den * 2 ^ e) := by linarith
    have := Nat.lt_of_mul_lt_mul_right bound
    omega

/-- A fraction is not above the midpoint above its nearest rank. -/
theorem nearestRank_above (num : Nat) {den : Nat} (hd : 0 < den) :
    2 * (num * unitsPerOne) ≤
      den * (units (nearestRank num den) + units (nearestRank num den + 1)) := by
  obtain ⟨e, q, parts, low, high, -, above, up, -⟩ := nearestRank_parts num hd
  rw [parts]
  have here := units_split low high
  by_cases last : q = 2 * binade
  · have next := units_lt_succ (e * binade + q)
    have double : 2 * (q * (den * 2 ^ e)) = den * (2 * (q * 2 ^ e)) := by ring
    calc 2 * (num * unitsPerOne) ≤ 2 * (q * (den * 2 ^ e)) := by rw [last]; linarith
      _ = den * (2 * (q * 2 ^ e)) := double
      _ ≤ den * (units (e * binade + q) + units (e * binade + q + 1)) := by
        apply Nat.mul_le_mul_left
        omega
  · have next := units_split (e := e) (q := q + 1) (low.imp_left Nat.le_succ_of_le) (by omega)
    rw [← Nat.add_assoc] at next
    calc 2 * (num * unitsPerOne) ≤ (2 * q + 1) * (den * 2 ^ e) := up
      _ = den * (units (e * binade + q) + units (e * binade + q + 1)) := by rw [here, next]; ring

/-- A fraction is not below the midpoint below its nearest rank. -/
theorem nearestRank_below (num : Nat) {den rank : Nat} (hd : 0 < den) (h : rank < nearestRank num den) :
    den * (units rank + units (rank + 1)) ≤ 2 * (num * unitsPerOne) := by
  obtain ⟨e, q, parts, low, high, below, -, -, down⟩ := nearestRank_parts num hd
  rw [parts] at h
  have here := units_split low high
  have last : units (rank + 1) ≤ units (e * binade + q) := units_strictMono.monotone h
  by_cases first : q = binade ∧ 0 < e
  · have before := units_lt_succ rank
    have start := below first.2
    calc den * (units rank + units (rank + 1)) ≤ den * (2 * (q * 2 ^ e)) := by
          apply Nat.mul_le_mul_left
          omega
      _ = 2 * (binade * (den * 2 ^ e)) := by rw [first.1]; ring
      _ ≤ 2 * (num * unitsPerOne) := by linarith
  · have some : 1 ≤ q := by
      rcases low with low | low
      · exact Nat.le_trans (by decide) low
      · subst low
        omega
    have before := units_split (e := e) (q := q - 1) (by omega) (by omega)
    have mono : units rank ≤ units (e * binade + (q - 1)) := units_strictMono.monotone (by omega)
    have step : (q - 1) * 2 ^ e + q * 2 ^ e + 2 ^ e = 2 * (q * 2 ^ e) := by
      obtain ⟨p, rfl⟩ : ∃ p, q = p + 1 := ⟨q - 1, by omega⟩
      rw [Nat.add_sub_cancel]
      ring
    have sum : units rank + units (rank + 1) + 2 ^ e ≤ 2 * (q * 2 ^ e) := by omega
    have := Nat.mul_le_mul_left den sum
    have left : den * (units rank + units (rank + 1) + 2 ^ e) =
        den * (units rank + units (rank + 1)) + den * 2 ^ e := by ring
    have right : den * (2 * (q * 2 ^ e)) = 2 * q * (den * 2 ^ e) := by ring
    omega

/-- **A fraction strictly between the midpoints around a rank** is rounded to this rank. -/
theorem nearestRank_eq {num den rank : Nat} (hd : 0 < den)
    (below : ∀ r < rank, den * (units r + units (r + 1)) < 2 * (num * unitsPerOne))
    (above : 2 * (num * unitsPerOne) < den * (units rank + units (rank + 1))) :
    nearestRank num den = rank := by
  rcases Nat.lt_trichotomy (nearestRank num den) rank with less | same | more
  · exact absurd (nearestRank_above num hd) (Nat.not_le.mpr (below _ less))
  · exact same
  · exact absurd (nearestRank_below num hd more) (Nat.not_le.mpr above)

theorem unitsPerOne_pos : 0 < unitsPerOne := by
  have pos : ∀ p, 0 < Nat.pow 2 p := fun p => Nat.two_pow_pos p
  unfold unitsPerOne
  apply pos

theorem unitsPerOne_eq_pow : ∃ p, unitsPerOne = 2 ^ p := by
  have key : ∀ p, ∃ q, Nat.pow 2 p = 2 ^ q := fun p => ⟨p, rfl⟩
  unfold unitsPerOne
  apply key

/-- The size of a rank is rounded to the rank itself. -/
theorem nearestRank_exact {num den rank : Nat} (hd : 0 < den) (h : num * unitsPerOne = den * units rank) :
    nearestRank num den = rank := by
  have double : 2 * (num * unitsPerOne) = den * (units rank + units rank) := by
    rw [h]
    ring
  apply nearestRank_eq hd
  · intro r hr
    have first := units_lt_succ r
    have second : units (r + 1) ≤ units rank := units_strictMono.monotone hr
    rw [double]
    exact Nat.mul_lt_mul_of_pos_left (by omega) hd
  · have next := units_lt_succ rank
    rw [double]
    exact Nat.mul_lt_mul_of_pos_left (by omega) hd

theorem nearestRank_units (rank : Nat) : nearestRank (units rank) unitsPerOne = rank :=
  nearestRank_exact unitsPerOne_pos (Nat.mul_comm _ _)

/-- **Rounding keeps the order** of fractions. -/
theorem nearestRank_mono {num den num' den' : Nat} (hd : 0 < den) (hd' : 0 < den')
    (h : num * den' ≤ num' * den) : nearestRank num den ≤ nearestRank num' den' := by
  -- both fractions over one denominator
  rw [← nearestRank_scale num den hd', ← nearestRank_scale num' den' hd, Nat.mul_comm den' den]
  have hpos : 0 < den * den' := Nat.mul_pos hd hd'
  generalize num * den' = a at *
  generalize num' * den = b at *
  generalize den * den' = c at *
  by_contra less
  rw [Nat.not_le] at less
  have low := nearestRank_below a hpos less
  have high := nearestRank_above b hpos
  have scaled : a * unitsPerOne ≤ b * unitsPerOne := Nat.mul_le_mul_right _ h
  -- both lie on the same midpoint, so they are the same
  have same : a * unitsPerOne = b * unitsPerOne := by omega
  rw [Nat.eq_of_mul_eq_mul_right unitsPerOne_pos same] at less
  exact Nat.lt_irrefl _ less

end PolicyDesk.Binary64
