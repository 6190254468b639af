import PolicyDesk.Proofs.Amount.Nearest
import PolicyDesk.Proofs.Amount.Wire

/-!
# Shortest decimals and the numbers they stand for

* `rank_eq`, `rank_le`, `rank_shift`: the rank of a decimal depends on its value alone, and keeps the order.
* `shortest_rank`: the shortest decimal is read as the rank it was found for.
* `ofCount?_seventeen`: there is always a decimal of seventeen digits that is read as a given rank, because
  seventeen digits are closer to each other than magnitudes are (`units_spread`). So a shortest decimal never
  has more (`shortest_digits_le`).
* `top_le`, `le_top`: the place of the first digit of a decimal that is read as a finite number other than
  zero.
-/

namespace PolicyDesk

open Text (natural natural_length_pos natural_length_eq lt_pow_natural_length pow_natural_length_le)
open Binary64 (nearestRank units unitsPerOne binade rankLimit)

namespace Binary64

theorem significand_lt (rank : Nat) : significand rank < 2 * binade := by
  unfold significand binade
  split
  · omega
  · omega

/-- From one rank to the next the binade stays the same, or a new one starts. -/
theorem shift_succ (rank : Nat) :
    shift (rank + 1) = shift rank ∨
      (shift (rank + 1) = shift rank + 1 ∧ significand (rank + 1) = binade) := by
  unfold shift significand binade
  by_cases first : (rank + 1) % 0x10000000000000 = 0
  · by_cases small : rank + 1 < 2 * 0x10000000000000
    · left
      omega
    · right
      constructor
      · omega
      · rw [if_neg (by omega)]
        omega
  · left
    omega

/-- The magnitudes on both sides of one are further apart than a unit in its seventeenth digit. -/
theorem units_spread (rank : Nat) :
    2 * units (rank + 1) + 10 ^ 16 * units rank < 10 ^ 16 * units (rank + 2) := by
  have next := units_succ rank
  have nextButOne : units (rank + 2) = units (rank + 1) + 2 ^ shift (rank + 1) := units_succ (rank + 1)
  have size : units (rank + 1) = significand (rank + 1) * 2 ^ shift (rank + 1) := rfl
  have digits := significand_lt (rank + 1)
  rcases shift_succ rank with same | ⟨new, first⟩
  · rw [same] at size nextButOne
    have hp : 0 < 2 ^ shift rank := Nat.pow_pos (by decide)
    have bound : units (rank + 1) < 2 * binade * 2 ^ shift rank := by
      rw [size]
      exact Nat.mul_lt_mul_of_pos_right digits hp
    unfold binade at bound
    omega
  · rw [new, first] at size
    rw [new] at nextButOne
    have hp : 0 < 2 ^ shift rank := Nat.pow_pos (by decide)
    rw [Nat.pow_succ] at size nextButOne
    have bound : units (rank + 1) = 2 * binade * 2 ^ shift rank := by
      rw [size]
      ring
    unfold binade at bound
    omega

end Binary64

namespace Decimal

/-! ## The value of a decimal -/

/-- A decimal as a fraction: any way of writing its power of ten as a difference will do. -/
theorem rank_eq {d : Decimal} {a b : Nat} (h : d.power = (a : Int) - b) :
    d.rank = nearestRank (d.digits * 10 ^ a) (10 ^ b) := by
  have hpos : ∀ n, 0 < 10 ^ n := fun n => Nat.pow_pos (by decide)
  unfold rank
  simp only [Nat.pow_eq]
  cases hp : d.power with
  | ofNat p =>
    simp only
    have ha : a = p + b := by
      rw [hp, Int.ofNat_eq_natCast] at h
      omega
    rw [← Binary64.nearestRank_scale _ 1 (hpos b), ha, Nat.pow_add, Nat.one_mul, Nat.mul_assoc]
  | negSucc p =>
    simp only
    have hb : b = p + 1 + a := by
      rw [hp] at h
      omega
    have parts : 10 ^ (p + 1 + a) = 10 ^ (p + 1) * 10 ^ a := Nat.pow_add 10 (p + 1) a
    rw [← Binary64.nearestRank_scale _ (10 ^ (p + 1)) (hpos a), hb, parts]

/-- Every integer is such a difference. -/
theorem exists_power (p : Int) : ∃ a b : Nat, p = (a : Int) - b := ⟨p.toNat, (-p).toNat, by omega⟩

/-- The order of values is the order of ranks. -/
theorem rank_le {d d' : Decimal} {a a' b b' : Nat} (h : d.power = (a : Int) - b)
    (h' : d'.power = (a' : Int) - b') (le : d.digits * 10 ^ a * 10 ^ b' ≤ d'.digits * 10 ^ a' * 10 ^ b) :
    d.rank ≤ d'.rank := by
  rw [rank_eq h, rank_eq h']
  exact Binary64.nearestRank_mono (Nat.pow_pos (by decide)) (Nat.pow_pos (by decide)) le

/-- Zeros at the end of the digits count in the power of ten. -/
theorem rank_shift (digits : Nat) (power : Int) (k : Nat) :
    rank ⟨digits * 10 ^ k, power⟩ = rank ⟨digits, power + k⟩ := by
  obtain ⟨a, b, h⟩ := exists_power power
  have shifted : power + k = ((k + a : Nat) : Int) - b := by omega
  rw [rank_eq (d := ⟨digits * 10 ^ k, power⟩) h, rank_eq (d := ⟨digits, power + k⟩) shifted]
  simp only [Nat.pow_add, Nat.mul_assoc]

theorem dropZeros_rank (d : Decimal) : d.dropZeros.rank = d.rank := by
  rw [dropZeros]
  split
  · rename_i zero
    have tens : d.digits / 10 * 10 ^ 1 = d.digits := by omega
    have shifted := rank_shift (d.digits / 10) d.power 1
    rw [tens] at shifted
    exact (dropZeros_rank _).trans shifted.symm
  · rfl
termination_by d.digits
decreasing_by omega

theorem dropZeros_digits_le (d : Decimal) : d.dropZeros.digits ≤ d.digits := by
  rw [dropZeros]
  split
  · rename_i zero
    have ih := dropZeros_digits_le ⟨d.digits / 10, d.power + 1⟩
    simp only at ih
    omega
  · exact Nat.le_refl _
termination_by d.digits
decreasing_by omega

/-! ## Exact decimals -/

/-- How many units there are in one over `10 ^ 1074`, so that the digits of an exact decimal are so many
    times its size. -/
def fives : Nat := Nat.pow 5 1074

theorem fives_pos : 0 < fives := by
  have pos : ∀ p, 0 < Nat.pow 5 p := fun p => Nat.pow_pos (by decide)
  unfold fives
  apply pos

theorem unitsPerOne_mul_fives {b : Nat} (h : b = 1074) : unitsPerOne * fives = 10 ^ b := by
  have key : ∀ n, Nat.pow 2 n * Nat.pow 5 n = 10 ^ n := by
    intro n
    rw [Nat.pow_eq, Nat.pow_eq, ← Nat.mul_pow]
  unfold unitsPerOne fives
  rw [← h]
  apply key

/-- A decimal that goes as far behind the point as an exact one. -/
theorem rank_of_fives (digits dropped : Nat) :
    rank ⟨digits, (dropped : Int) - 1074⟩ = nearestRank (digits * 10 ^ dropped) (unitsPerOne * fives) := by
  obtain ⟨b, hb⟩ : ∃ b, b = 1074 := ⟨_, rfl⟩
  have h : (dropped : Int) - 1074 = (dropped : Int) - b := by omega
  rw [unitsPerOne_mul_fives hb]
  exact rank_eq h

theorem exact_eq (rank : Nat) : exact rank = ⟨units rank * fives, ((0 : Nat) : Int) - 1074⟩ := by
  have power : (-1074 : Int) = ((0 : Nat) : Int) - 1074 := by omega
  unfold exact fives
  exact congrArg (Decimal.mk _) power

theorem exact_rank (rank : Nat) : (exact rank).rank = rank := by
  rw [exact_eq, rank_of_fives, Nat.pow_zero, Nat.mul_one, Binary64.nearestRank_scale _ _ fives_pos,
    Binary64.nearestRank_units]

/-- **The shortest decimal is read as the rank it was found for.** -/
theorem shortest_rank (tie : Tie) (rank : Nat) : (shortest tie rank).rank = rank := by
  unfold shortest
  split
  · rename_i zero
    rw [zero]
    exact rank_of_digits_zero rfl
  · rw [dropZeros_rank]
    cases hf : (List.range 17).findSome? fun n => ofCount? tie rank (n + 1) with
    | none => exact exact_rank rank
    | some d =>
      obtain ⟨n, _, hn⟩ := List.exists_of_findSome?_eq_some hf
      exact ofCount?_rank hn

/-! ## Seventeen digits are enough -/

/-- A neighbour is found if one of the two is read as the rank. -/
theorem neighbour?_isSome {tie : Tie} {rank whole cut : Nat} {power : Int}
    (h : Decimal.rank ⟨whole / cut, power⟩ = rank ∨ Decimal.rank ⟨whole / cut + 1, power⟩ = rank) :
    (neighbour? tie rank whole cut power).isSome = true := by
  unfold neighbour?
  simp only
  split
  · rename_i below above
    rcases h with h | h
    · rw [decide_eq_true h] at below
      cases below
    · rw [decide_eq_true h] at above
      cases above
  · rfl
  · rfl
  · split
    · rfl
    · split
      · rfl
      · cases tie with
        | up => rfl
        | even =>
          simp only
          split <;> rfl

/-- A decimal between the midpoints around a rank is read as the rank. The midpoints are counted like the
    digits of an exact decimal. -/
theorem rank_eq_of_between {digits dropped rank : Nat}
    (below : fives * (units rank + units (rank + 1)) < 2 * (digits * 10 ^ dropped))
    (above : 2 * (digits * 10 ^ dropped) < fives * (units (rank + 1) + units (rank + 2))) :
    Decimal.rank ⟨digits, (dropped : Int) - 1074⟩ = rank + 1 := by
  have hpos : 0 < unitsPerOne := Binary64.unitsPerOne_pos
  rw [rank_of_fives]
  generalize digits * 10 ^ dropped = num at *
  have factor : ∀ m, unitsPerOne * fives * m = unitsPerOne * (fives * m) := fun m => Nat.mul_assoc _ _ _
  have swap : 2 * (num * unitsPerOne) = unitsPerOne * (2 * num) := by ring
  apply Binary64.nearestRank_eq (Nat.mul_pos hpos fives_pos)
  · intro r hr
    have first : units r ≤ units rank := Binary64.units_strictMono.monotone (by omega)
    have second : units (r + 1) ≤ units (rank + 1) := Binary64.units_strictMono.monotone (by omega)
    rw [factor, swap]
    apply Nat.mul_lt_mul_of_pos_left _ hpos
    exact Nat.lt_of_le_of_lt (Nat.mul_le_mul_left fives (by omega)) below
  · rw [factor, swap]
    exact Nat.mul_lt_mul_of_pos_left above hpos

/-- **Seventeen digits are always enough.** If neither neighbour of the exact decimal were read as the rank,
    the magnitudes next to it would be no further apart than the neighbours are. -/
theorem ofCount?_seventeen (tie : Tie) {rank : Nat} (h : rank ≠ 0) :
    (ofCount? tie rank 17).isSome = true := by
  obtain ⟨r, rfl⟩ : ∃ r, rank = r + 1 := ⟨rank - 1, by omega⟩
  have some := exact_digits h
  have value : (exact (r + 1)).digits = fives * units (r + 1) := by
    rw [exact_eq, Nat.mul_comm]
  unfold ofCount?
  simp only
  apply neighbour?_isSome
  have size := pow_natural_length_le some
  generalize (exact (r + 1)).digits = whole at *
  obtain ⟨dropped, hdropped⟩ : ∃ dropped, dropped = (natural whole).length - 17 := ⟨_, rfl⟩
  rw [← hdropped, Nat.pow_eq]
  have hc : 0 < 10 ^ dropped := Nat.pow_pos (by decide)
  have hdiv := Nat.div_add_mod whole (10 ^ dropped)
  have hmod := Nat.mod_lt whole hc
  have low : whole / 10 ^ dropped * 10 ^ dropped + whole % 10 ^ dropped = whole := by
    rw [Nat.mul_comm]
    exact hdiv
  have high : (whole / 10 ^ dropped + 1) * 10 ^ dropped =
      whole / 10 ^ dropped * 10 ^ dropped + 10 ^ dropped := by ring
  by_cases all : dropped = 0
  · left
    have itself : exact (r + 1) = ⟨whole, ((0 : Nat) : Int) - 1074⟩ := by
      rw [exact_eq, value, Nat.mul_comm]
    rw [all, Nat.pow_zero, Nat.div_one, ← itself]
    exact exact_rank (r + 1)
  · by_contra neither
    rw [not_or] at neither
    obtain ⟨notBelow, notAbove⟩ := neither
    have leading : 10 ^ 16 * 10 ^ dropped ≤ whole := by
      rw [← Nat.pow_add]
      exact Nat.le_trans (Nat.pow_le_pow_right (by decide) (by omega)) size
    have first : units r < units (r + 1) := Binary64.units_lt_succ r
    have second : units (r + 1) < units (r + 2) := Binary64.units_lt_succ (r + 1)
    have gapBelow : fives * units r < fives * units (r + 1) := Nat.mul_lt_mul_of_pos_left first fives_pos
    have gapAbove : fives * units (r + 1) < fives * units (r + 2) :=
      Nat.mul_lt_mul_of_pos_left second fives_pos
    have sumBelow : fives * (units r + units (r + 1)) = fives * units r + fives * units (r + 1) :=
      Nat.mul_add _ _ _
    have sumAbove : fives * (units (r + 1) + units (r + 2)) = fives * units (r + 1) + fives * units (r + 2) :=
      Nat.mul_add _ _ _
    have farBelow : 2 * (whole / 10 ^ dropped * 10 ^ dropped) ≤ fives * (units r + units (r + 1)) := by
      by_contra more
      exact notBelow (rank_eq_of_between (by omega) (by omega))
    have farAbove : fives * (units (r + 1) + units (r + 2)) ≤
        2 * ((whole / 10 ^ dropped + 1) * 10 ^ dropped) := by
      by_contra less
      exact notAbove (rank_eq_of_between (by omega) (by omega))
    have apart : fives * units (r + 2) ≤ fives * units r + 2 * 10 ^ dropped := by omega
    have spread := Nat.mul_lt_mul_of_pos_left (Binary64.units_spread r) fives_pos
    have left : fives * (2 * units (r + 1) + 10 ^ 16 * units r) =
        2 * (fives * units (r + 1)) + 10 ^ 16 * (fives * units r) := by ring
    have right : fives * (10 ^ 16 * units (r + 2)) = 10 ^ 16 * (fives * units (r + 2)) := by ring
    omega

theorem neighbour?_digits_le {tie : Tie} {rank whole cut : Nat} {power : Int} {d : Decimal}
    (h : neighbour? tie rank whole cut power = some d) : d.digits ≤ whole / cut + 1 := by
  unfold neighbour? at h
  simp only at h
  split at h
  · cases h
  · cases h
    exact Nat.le_succ _
  · cases h
    exact Nat.le_refl _
  · split at h
    · cases h
      exact Nat.le_succ _
    · split at h
      · cases h
        exact Nat.le_refl _
      · cases tie with
        | up =>
          cases h
          exact Nat.le_refl _
        | even =>
          simp only at h
          split at h
          · cases h
            exact Nat.le_succ _
          · cases h
            exact Nat.le_refl _

theorem ofCount?_digits_le {tie : Tie} {rank count : Nat} {d : Decimal}
    (h : ofCount? tie rank count = some d) : d.digits ≤ 10 ^ count := by
  unfold ofCount? at h
  simp only at h
  have bound := neighbour?_digits_le h
  have size := lt_pow_natural_length (exact rank).digits
  generalize (exact rank).digits = whole at *
  rw [Nat.pow_eq] at bound
  have fits : whole < 10 ^ count * 10 ^ ((natural whole).length - count) := by
    rw [← Nat.pow_add]
    exact Nat.lt_of_lt_of_le size (Nat.pow_le_pow_right (by decide) (by omega))
  have := (Nat.div_lt_iff_lt_mul (Nat.pow_pos (by decide))).mpr fits
  omega

/-- A shortest decimal has no more than seventeen digits. -/
theorem shortest_digits_le (tie : Tie) (rank : Nat) : (shortest tie rank).digits ≤ 10 ^ 17 := by
  unfold shortest
  split
  · exact Nat.zero_le _
  · rename_i h
    refine Nat.le_trans (dropZeros_digits_le _) ?_
    cases hf : (List.range 17).findSome? fun n => ofCount? tie rank (n + 1) with
    | none =>
      have nothing := (List.findSome?_eq_none_iff.mp hf) 16 (by decide)
      have found := ofCount?_seventeen tie h
      rw [nothing] at found
      cases found
    | some d =>
      obtain ⟨n, hn, found⟩ := List.exists_of_findSome?_eq_some hf
      have few : n + 1 ≤ 17 := List.mem_range.mp hn
      exact Nat.le_trans (ofCount?_digits_le found) (Nat.pow_le_pow_right (by decide) few)

/-- A shortest decimal that the search finds, where the length of the exact one is known. -/
theorem shortest_of_found {tie : Tie} {rank k : Nat} {d : Decimal} (pos : rank ≠ 0)
    (low : 10 ^ k ≤ (exact rank).digits) (high : (exact rank).digits < 10 ^ (k + 1))
    (found : ((List.range 17).findSome? fun n => neighbour? tie rank (exact rank).digits (Nat.pow 10 (k - n))
      ((k - n : Nat) - 1074)) = some d) (last : d.digits % 10 ≠ 0) : shortest tie rank = d := by
  have length := natural_length_eq low high
  unfold shortest ofCount?
  simp only [if_neg pos, length, Nat.add_sub_add_right, found, Option.getD_some]
  rw [dropZeros, if_neg fun zeros => last zeros.2]

/-! ## The place of the first digit -/

/-- The place of the first digit of a decimal, counted from the point. -/
def top (d : Decimal) : Int := d.power + (natural d.digits).length

/-- What is read as a finite number is below `10 ^ 310`. -/
theorem top_le {d : Decimal} (some : d.digits ≠ 0) (finite : d.rank < rankLimit) : d.top ≤ 310 := by
  by_contra high
  obtain ⟨a, b, h⟩ := exists_power d.power
  have size := pow_natural_length_le some
  obtain ⟨n, hn⟩ : ∃ n : Nat, n = 310 := ⟨_, rfl⟩
  have large : rankLimit ≤ Decimal.rank ⟨1, n⟩ := by
    rw [hn]
    decide +kernel
  have reached : Decimal.rank ⟨1, n⟩ ≤ d.rank := by
    have power : (n : Int) = n - (0 : Nat) := by simp
    apply rank_le power h
    calc 1 * 10 ^ n * 10 ^ b = 10 ^ (n + b) := by rw [Nat.one_mul, Nat.pow_add]
      _ ≤ 10 ^ ((natural d.digits).length - 1 + a) := by
        apply Nat.pow_le_pow_right (by decide)
        unfold top at high
        have := natural_length_pos d.digits
        omega
      _ = 10 ^ ((natural d.digits).length - 1) * 10 ^ a := Nat.pow_add _ _ _
      _ ≤ d.digits * 10 ^ a * 10 ^ 0 := by
        rw [Nat.pow_zero, Nat.mul_one]
        exact Nat.mul_le_mul_right _ size
  omega

/-- What is read as a number other than zero is not below `10 ^ -331`. -/
theorem le_top {d : Decimal} (some : d.rank ≠ 0) : -330 ≤ d.top := by
  by_contra low
  obtain ⟨a, b, h⟩ := exists_power d.power
  have size := lt_pow_natural_length d.digits
  obtain ⟨n, hn⟩ : ∃ n : Nat, n = 330 := ⟨_, rfl⟩
  have small : Decimal.rank ⟨1, -(n : Int)⟩ = 0 := by
    rw [hn]
    decide +kernel
  have reached : d.rank ≤ Decimal.rank ⟨1, -(n : Int)⟩ := by
    have power : -(n : Int) = (0 : Nat) - n := by simp
    apply rank_le h power
    calc d.digits * 10 ^ a * 10 ^ n ≤ 10 ^ (natural d.digits).length * 10 ^ a * 10 ^ n := by
          apply Nat.mul_le_mul_right
          exact Nat.mul_le_mul_right _ (Nat.le_of_lt size)
      _ = 10 ^ ((natural d.digits).length + a + n) := by rw [← Nat.pow_add, ← Nat.pow_add]
      _ ≤ 10 ^ b := by
        apply Nat.pow_le_pow_right (by decide)
        unfold top at low
        omega
      _ = 1 * 10 ^ 0 * 10 ^ b := by rw [Nat.pow_zero, Nat.one_mul]
  omega

end Decimal

end PolicyDesk
