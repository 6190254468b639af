import PolicyDesk.Json.Typed
import PolicyDesk.Proofs.Amount.Shortest

/-!
# How the number of a document is rounded

A reader of documents rounds twice: first the digits of a number, and then their product or quotient with a
power of ten.

* `Numeral.decimal`: the number that a numeral stands for; `real_of_le`: it is read from all digits if these
  fit into a significand.
* `scaledRank_exact`: with a significand of at most `2 ^ 53` and a power of ten between `-22` and `22` nothing
  is rounded before the last step.
* `scaledRank_lt`: a decimal of seventeen digits that stands for a finite amount does not become too large,
  with one exception: the digits `17976931348623158` at the place `10 ^ 292`.
-/

namespace PolicyDesk

open Text (value valueFrom le_valueFrom)
open Binary64 (nearestRank units unitsPerOne binade rankLimit mulRank divRank)

namespace Json

/-! ## The number of a numeral -/

namespace Numeral

/-- The power of ten in the exponent; zero without one. -/
def tens (n : Numeral) : Int :=
  let (down, ds) := n.exponent.getD (false, [])
  if down then -(value ds : Int) else (value ds : Int)

/-- The number that a numeral stands for, apart from its sign: all its digits, without the point, times a
    power of ten. -/
def decimal (n : Numeral) : Decimal := ⟨value (n.whole ++ n.places), n.tens - n.places.length⟩

end Numeral

/-- Digits that fit into the significand are all absorbed. -/
theorem absorb_of_le {start : Nat} {ds : List Char} (h : valueFrom start ds ≤ wordMax) :
    absorb start ds = (valueFrom start ds, []) := by
  induction ds generalizing start with
  | nil => rfl
  | cons d ds ih =>
    have first : 10 * start + Text.digitValue d ≤ wordMax := Nat.le_trans (le_valueFrom _ ds) h
    unfold absorb
    rw [if_pos first]
    exact ih h

/-- An exponent that is small enough is read to its end. -/
theorem unreadExponent_of_le {start : Nat} {ds : List Char} (h : valueFrom start ds ≤ exponentMax) :
    unreadExponent start ds = none := by
  induction ds generalizing start with
  | nil => rfl
  | cons d ds ih =>
    have first : 10 * start + Text.digitValue d ≤ exponentMax := Nat.le_trans (le_valueFrom _ ds) h
    unfold unreadExponent
    rw [if_pos first]
    exact ih h

/-- A numeral whose digits and exponent are read to their ends is rounded as its decimal. -/
theorem real_of_le {n : Numeral} (digits : n.decimal.digits ≤ wordMax)
    (exponent : value (n.exponent.getD (false, [])).2 ≤ exponentMax) :
    n.real = match Binary64.ofRank? n.negative (scaledRank n.decimal.digits n.decimal.power) with
      | some x => .ok x
      | none => .error 0 := by
  have whole : valueFrom 0 n.whole ≤ wordMax := by
    refine Nat.le_trans (le_valueFrom _ n.places) ?_
    rw [← Text.valueFrom_append]
    exact digits
  have places : valueFrom (valueFrom 0 n.whole) n.places ≤ wordMax := by
    rw [← Text.valueFrom_append]
    exact digits
  have scaled : n.scaled = (n.decimal.digits, -(n.places.length : Int)) := by
    unfold Numeral.scaled
    rw [absorb_of_le whole]
    simp only
    rw [absorb_of_le places, ← Text.valueFrom_append]
    simp [Numeral.decimal, value]
  unfold Numeral.real
  rw [scaled]
  simp only
  rw [unreadExponent_of_le exponent]
  have power : -(n.places.length : Int) + n.tens = n.decimal.power := by
    unfold Numeral.decimal
    simp only
    omega
  rw [← power]
  rfl

/-! ## Rounding twice -/

/-- The size of a rank of digits and a power of two is what they denote. -/
theorem units_nearestRank {m e : Nat} (h : m ≤ 2 * binade) :
    units (nearestRank (m * 2 ^ e) 1) = m * 2 ^ e * unitsPerOne := by
  obtain ⟨p, hp⟩ := Binary64.unitsPerOne_eq_pow
  obtain ⟨rank, size⟩ := Binary64.exists_units_eq (e + p) h
  have sized : m * 2 ^ e * unitsPerOne = units rank := by
    rw [size, hp, Nat.pow_add, Nat.mul_assoc]
  have found : nearestRank (m * 2 ^ e) 1 = rank :=
    Binary64.nearestRank_exact Nat.one_pos (by rw [Nat.one_mul, sized])
  rw [found, sized]

theorem units_powerRank {p : Nat} (h : p ≤ 22) : units (powerRank p) = 10 ^ p * unitsPerOne := by
  have parts : 10 ^ p = 5 ^ p * 2 ^ p := by
    rw [← Nat.mul_pow]
  have small : 5 ^ p ≤ 2 * binade := Nat.le_trans (Nat.pow_le_pow_right (by decide) h) (by decide)
  unfold powerRank
  rw [Nat.pow_eq, parts]
  exact units_nearestRank small

theorem units_significand {m : Nat} (h : m ≤ 2 ^ 53) : units (nearestRank m 1) = m * unitsPerOne := by
  have size := units_nearestRank (m := m) (e := 0) h
  rwa [Nat.pow_zero, Nat.mul_one] at size

/-- **Small significands and powers are rounded once only**, so the result is the nearest amount. -/
theorem scaledRank_exact {d : Decimal} (digits : d.digits ≤ 2 ^ 53) (low : -22 ≤ d.power)
    (high : d.power ≤ 22) : scaledRank d.digits d.power = d.rank := by
  have size := units_significand digits
  have hpos := Binary64.unitsPerOne_pos
  by_cases zero : d.digits = 0
  · rw [Decimal.rank_of_digits_zero zero, zero]
    unfold scaledRank
    rw [Binary64.nearestRank_zero]
    cases d.power with
    | ofNat p => rfl
    | negSucc p =>
      unfold divPower
      rfl
  · have some : nearestRank d.digits 1 ≠ 0 := by
      intro none
      rw [none, Binary64.units_zero] at size
      exact Nat.mul_ne_zero zero (Nat.ne_of_gt hpos) size.symm
    unfold scaledRank
    cases hp : d.power with
    | ofNat p =>
      have few : p ≤ 22 := by
        rw [hp, Int.ofNat_eq_natCast] at high
        omega
      have power : d.power = (p : Int) - (0 : Nat) := by
        rw [hp, Int.ofNat_eq_natCast]
        omega
      have product : d.digits * unitsPerOne * (10 ^ p * unitsPerOne) =
          d.digits * 10 ^ p * (unitsPerOne * unitsPerOne) := by ring
      have scaled := Binary64.nearestRank_scale (d.digits * 10 ^ p) 1 (Nat.mul_pos hpos hpos)
      rw [Nat.one_mul] at scaled
      simp only
      rw [if_neg some, if_pos (by unfold powerMax; omega), mulRank, size, units_powerRank few, product,
        scaled, Decimal.rank_eq power, Nat.pow_zero]
    | negSucc p =>
      have few : p + 1 ≤ 22 := by
        rw [hp] at low
        omega
      have power : d.power = ((0 : Nat) : Int) - (p + 1 : Nat) := by
        rw [hp]
        omega
      simp only
      unfold divPower
      rw [if_neg some, if_pos (by unfold powerMax; omega), divRank, size, units_powerRank few,
        Binary64.nearestRank_scale _ _ hpos, Decimal.rank_eq power, Nat.pow_zero, Nat.mul_one]

/-! ## Nothing becomes too large -/

theorem powerRank_mono {p q : Nat} (h : p ≤ q) : powerRank p ≤ powerRank q := by
  apply Binary64.nearestRank_mono Nat.one_pos Nat.one_pos
  rw [Nat.mul_one, Nat.mul_one]
  exact Nat.pow_le_pow_right (by decide) h

theorem nearestRank_whole_mono {m n : Nat} (h : m ≤ n) : nearestRank m 1 ≤ nearestRank n 1 := by
  apply Binary64.nearestRank_mono Nat.one_pos Nat.one_pos
  rw [Nat.mul_one, Nat.mul_one]
  exact h

theorem mulRank_mono {a a' b b' : Nat} (ha : a ≤ a') (hb : b ≤ b') : mulRank a b ≤ mulRank a' b' := by
  have hpos := Nat.mul_pos Binary64.unitsPerOne_pos Binary64.unitsPerOne_pos
  apply Binary64.nearestRank_mono hpos hpos
  apply Nat.mul_le_mul_right
  exact Nat.mul_le_mul (Binary64.units_strictMono.monotone ha) (Binary64.units_strictMono.monotone hb)

/-- A quotient with a power of ten is not larger than the number. -/
theorem divRank_powerRank_le (rank p : Nat) : divRank rank (powerRank p) ≤ rank := by
  have one : unitsPerOne ≤ units (powerRank p) := by
    have drop : ∀ u v : Nat, 10 ^ 0 * u ≤ v → u ≤ v := by
      intro u v h
      simpa using h
    apply drop
    rw [← units_powerRank (Nat.zero_le 22)]
    exact Binary64.units_strictMono.monotone (powerRank_mono (Nat.zero_le p))
  have hpos := Binary64.unitsPerOne_pos
  calc divRank rank (powerRank p) ≤ nearestRank (units rank) unitsPerOne :=
        Binary64.nearestRank_mono (Nat.lt_of_lt_of_le hpos one) hpos (Nat.mul_le_mul_left _ one)
    _ = rank := Binary64.nearestRank_units rank

theorem divPower_le (rank power : Nat) : divPower rank power ≤ rank := by
  fun_induction divPower rank power with
  | case1 => exact Nat.zero_le _
  | case2 rank power => exact divRank_powerRank_le rank power
  | case3 rank power _ _ ih => exact Nat.le_trans ih (divRank_powerRank_le rank powerMax)

/-- The least whole number that is rounded to no finite amount. -/
def tooLarge : Nat := (2 ^ 54 - 1) * Nat.pow 2 970

theorem tooLarge_rank : nearestRank tooLarge 1 = rankLimit := by
  decide +kernel

/-- The first multiples of large powers of ten that could become too large, and the last before them. -/
theorem mulRank_below :
    (∀ p < 309, 292 < p → mulRank (nearestRank ((tooLarge - 1) / 10 ^ p) 1) (powerRank p) < rankLimit) ∧
    mulRank (nearestRank 17976931348623157 1) (powerRank 292) < rankLimit ∧
    mulRank (nearestRank (10 ^ 17) 1) (powerRank 291) < rankLimit := by
  decide +kernel

theorem mul_pow_lt_tooLarge {d : Decimal} {p : Nat} (power : d.power = p) (finite : d.rank < rankLimit) :
    d.digits * 10 ^ p < tooLarge := by
  by_contra more
  have difference : d.power = (p : Int) - (0 : Nat) := by
    rw [power]
    omega
  rw [Decimal.rank_eq difference, Nat.pow_zero] at finite
  have reached := nearestRank_whole_mono (Nat.not_lt.mp more)
  rw [tooLarge_rank] at reached
  omega

/-- **Rounding twice does not make too large** what is read as a finite amount, with one exception. -/
theorem scaledRank_lt {d : Decimal} (digits : d.digits ≤ 10 ^ 17) (finite : d.rank < rankLimit)
    (other : d ≠ ⟨17976931348623158, 292⟩) : scaledRank d.digits d.power < rankLimit := by
  obtain ⟨large, exception, small⟩ := mulRank_below
  unfold scaledRank
  cases hp : d.power with
  | negSucc p =>
    have whole : nearestRank (10 ^ 17) 1 < rankLimit := by decide +kernel
    calc divPower (nearestRank d.digits 1) (p + 1) ≤ nearestRank d.digits 1 := divPower_le _ _
      _ ≤ nearestRank (10 ^ 17) 1 := nearestRank_whole_mono digits
      _ < rankLimit := whole
  | ofNat p =>
    have below := mul_pow_lt_tooLarge hp finite
    simp only
    split
    · decide
    · rename_i some
      split
      · rename_i few
        rcases Nat.lt_trichotomy p 292 with less | same | more
        · calc mulRank (nearestRank d.digits 1) (powerRank p)
              ≤ mulRank (nearestRank (10 ^ 17) 1) (powerRank 291) :=
                mulRank_mono (nearestRank_whole_mono digits) (powerRank_mono (by omega))
            _ < rankLimit := small
        · subst same
          have next : tooLarge ≤ 17976931348623159 * 10 ^ 292 := by decide +kernel
          have bound := Nat.lt_of_mul_lt_mul_right (Nat.lt_of_lt_of_le below next)
          have ne : d.digits ≠ 17976931348623158 := by
            intro same
            apply other
            cases d
            cases hp
            cases same
            rfl
          calc mulRank (nearestRank d.digits 1) (powerRank 292)
              ≤ mulRank (nearestRank 17976931348623157 1) (powerRank 292) :=
                mulRank_mono (nearestRank_whole_mono (by omega)) (Nat.le_refl _)
            _ < rankLimit := exception
        · have quotient : d.digits ≤ (tooLarge - 1) / 10 ^ p :=
            (Nat.le_div_iff_mul_le (Nat.pow_pos (by decide))).mpr (by omega)
          calc mulRank (nearestRank d.digits 1) (powerRank p)
              ≤ mulRank (nearestRank ((tooLarge - 1) / 10 ^ p) 1) (powerRank p) :=
                mulRank_mono (nearestRank_whole_mono quotient) (Nat.le_refl _)
            _ < rankLimit := large p (Nat.lt_succ_of_le few) more
      · rename_i many
        have far : ∀ n : Nat, n = 309 → tooLarge ≤ 10 ^ n := by
          intro n hn
          rw [hn]
          decide +kernel
        have zero : d.digits = 0 := by
          by_contra pos
          have first : 10 ^ (powerMax + 1) ≤ d.digits * 10 ^ p := by
            calc 10 ^ (powerMax + 1) ≤ 10 ^ p := Nat.pow_le_pow_right (by decide) (by omega)
              _ ≤ d.digits * 10 ^ p := Nat.le_mul_of_pos_left _ (Nat.pos_of_ne_zero pos)
          have reached := far (powerMax + 1) rfl
          omega
        rw [zero] at some
        exact absurd (Binary64.nearestRank_zero 1) some

end Json

end PolicyDesk
