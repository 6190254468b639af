import PolicyDesk.Proofs.Json.Rounding

/-!
# Amounts in documents are read back

A document has the shortest decimal of an amount, and the reader of a document rounds it twice.

* `Decimal.numeral_decimal`: the numeral of a decimal stands for it, perhaps with zeros at the end.
* `shortest_ne_excess`: the one decimal that would become too large by rounding twice is not the shortest
  for any amount. It is read as the largest amount, whose shortest decimal is `ofCount?_largest`.
* `Binary64.wire_injective`: different amounts are written differently.
* `Binary64.wire_number`: every amount in a document is read as a finite amount of the same sign, and as
  the same amount if nothing is rounded before the last step.
-/

namespace PolicyDesk

open Text (value valueFrom natural natural_ne_nil natural_length_eq value_natural)
open Binary64 (rankLimit)
open Json (Numeral)

namespace Decimal

/-! ## The numeral of a decimal -/

theorem tens_exponentParts (negative : Bool) (whole places : List Char) (e : Int) :
    (⟨negative, whole, places, some (exponentParts e)⟩ : Numeral).tens = e := by
  unfold Numeral.tens
  cases e with
  | ofNat e => simp [exponentParts, value_natural]
  | negSucc e =>
    simp [exponentParts, value_natural]
    omega

theorem value_exponentParts (e : Int) : value (exponentParts e).2 = e.natAbs := by
  cases e <;> exact value_natural _

/-- **The numeral of a decimal stands for it**, perhaps with zeros at the end where the point asks for
    them. -/
theorem numeral_decimal (negative : Bool) (d : Decimal) :
    ∃ k : Nat, (d.numeral negative).decimal = ⟨d.digits * 10 ^ k, d.power - k⟩ ∧
      (k = 0 ∨ d.digits * 10 ^ k < 10 ^ 17) := by
  have digits := value_natural d.digits
  have some := natural_ne_nil d.digits
  have size := Text.lt_pow_natural_length d.digits
  have length := Text.natural_length_pos d.digits
  unfold numeral
  generalize natural d.digits = ds at *
  simp only
  split
  · rename_i inside
    cases hp : d.power with
    | ofNat p =>
      rw [hp, Int.ofNat_eq_natCast] at inside
      refine ⟨p + 1, ?_, .inr ?_⟩
      · have tail : List.replicate p '0' ++ ['0'] = List.replicate (p + 1) '0' :=
          List.replicate_succ'.symm
        simp only [Numeral.decimal, Numeral.tens, List.append_assoc, tail, Text.value_append_replicate, digits]
        simp [value, valueFrom]
      · calc d.digits * 10 ^ (p + 1) < 10 ^ ds.length * 10 ^ (p + 1) :=
              Nat.mul_lt_mul_of_pos_right size (Nat.pow_pos (by decide))
          _ = 10 ^ (ds.length + (p + 1)) := (Nat.pow_add _ _ _).symm
          _ ≤ 10 ^ 17 := Nat.pow_le_pow_right (by decide) (by omega)
    | negSucc p =>
      refine ⟨0, ?_, .inl rfl⟩
      simp only
      split
      · rename_i inner
        simp only [Numeral.decimal, Numeral.tens, List.take_append_drop, digits]
        simp [value, valueFrom]
        omega
      · rename_i outer
        have zero : value (['0'] ++ (List.replicate (p + 1 - ds.length) '0' ++ ds)) = d.digits :=
          (Text.value_replicate_append _ ds).trans digits
        simp only [Numeral.decimal, Numeral.tens, zero]
        simp [value, valueFrom]
        omega
  · refine ⟨0, ?_, .inl rfl⟩
    simp only [Numeral.decimal, tens_exponentParts, List.take_append_drop, digits]
    simp
    omega

/-! ## The largest amount -/

/-- Seventeen digits of the largest amount. -/
theorem ofCount?_largest :
    ofCount? .even (rankLimit - 1) 17 = some ⟨17976931348623157, 292⟩ := by
  have length : (natural (exact (rankLimit - 1)).digits).length = 1382 + 1 :=
    natural_length_eq (by decide +kernel) (by decide +kernel)
  unfold ofCount?
  simp only [length]
  decide +kernel

theorem dropZeros_eq (d : Decimal) : ∃ k : Nat, d = ⟨d.dropZeros.digits * 10 ^ k, d.dropZeros.power - k⟩ := by
  rw [dropZeros]
  split
  · rename_i zero
    obtain ⟨k, hk⟩ := dropZeros_eq ⟨d.digits / 10, d.power + 1⟩
    generalize dropZeros ⟨d.digits / 10, d.power + 1⟩ = e at *
    refine ⟨k + 1, ?_⟩
    cases d
    simp only [Decimal.mk.injEq] at zero hk ⊢
    rw [Nat.pow_succ, ← Nat.mul_assoc, ← hk.1]
    omega
  · exact ⟨0, by cases d; simp⟩
termination_by d.digits
decreasing_by omega

/-- **The decimal that would become too large** by rounding twice is not the shortest for any amount. -/
theorem shortest_ne_excess (rank : Nat) : shortest .even rank ≠ ⟨17976931348623158, 292⟩ := by
  intro excess
  have largest : rank = rankLimit - 1 := by
    have value : Decimal.rank ⟨17976931348623158, 292⟩ = rankLimit - 1 := by decide +kernel
    rw [← shortest_rank .even rank, excess, value]
  subst largest
  unfold shortest at excess
  rw [if_neg (by decide)] at excess
  cases hf : (List.range 17).findSome? fun n => ofCount? .even (rankLimit - 1) (n + 1) with
  | none =>
    have nothing := (List.findSome?_eq_none_iff.mp hf) 16 (by decide)
    rw [ofCount?_largest] at nothing
    cases nothing
  | some d =>
    rw [hf] at excess
    obtain ⟨n, hn, found⟩ := List.exists_of_findSome?_eq_some hf
    have few : n < 17 := List.mem_range.mp hn
    have bound := ofCount?_digits_le found
    obtain ⟨k, hk⟩ := dropZeros_eq d
    have dropped : d.dropZeros = ⟨17976931348623158, 292⟩ := excess
    rw [dropped] at hk
    -- with a zero behind it, or found with fewer digits, it would have too many digits
    have all : 17976931348623158 * 10 ^ k ≤ 10 ^ (n + 1) := by
      rw [hk] at bound
      exact bound
    have last : n = 16 := by
      by_contra other
      have less : 10 ^ (n + 1) ≤ 10 ^ 16 := Nat.pow_le_pow_right (by decide) (by omega)
      have pos : 0 < 10 ^ k := Nat.pow_pos (by decide)
      omega
    rw [last, ofCount?_largest] at found
    cases found
    have odd := congrArg Decimal.digits hk
    have digits : 17976931348623157 = 17976931348623158 * 10 ^ k := odd
    omega

end Decimal

namespace Binary64

/-! ## Reading an amount of a document -/

theorem numeral_isInteger (x : Binary64) : x.numeral.isInteger = false := by
  unfold numeral
  split
  · rfl
  · unfold Decimal.numeral
    simp only
    split
    · cases (Decimal.shortest .even x.rank).power with
      | ofNat p => rfl
      | negSucc p =>
        simp only
        split
        · rename_i inside
          simp [Numeral.isInteger]
          omega
        · rename_i outside
          have some := natural_ne_nil (Decimal.shortest .even x.rank).digits
          simp [Numeral.isInteger, some]
    · simp [Numeral.isInteger]

theorem numeral_negative (x : Binary64) : x.numeral.negative = x.negative := by
  unfold numeral
  split
  · rfl
  · unfold Decimal.numeral
    simp only
    split
    · cases (Decimal.shortest .even x.rank).power with
      | ofNat p => rfl
      | negSucc p =>
        simp only
        split <;> rfl
    · rfl

/-- The numeral of an amount in a document stands for a decimal that is read as the amount, has few digits
    and does not become too large by rounding twice. -/
theorem numeral_fits (x : Binary64) :
    x.numeral.decimal.rank = x.rank ∧ x.numeral.decimal.digits ≤ 10 ^ 17 ∧
      x.numeral.decimal ≠ ⟨17976931348623158, 292⟩ ∧
      value (x.numeral.exponent.getD (false, [])).2 ≤ 331 := by
  unfold numeral
  split
  · rename_i zero
    have nothing : (⟨x.negative, ['0'], ['0'], none⟩ : Numeral).decimal = ⟨0, -1⟩ := rfl
    rw [zero, nothing]
    exact ⟨Decimal.rank_of_digits_zero rfl, by decide, by decide, Nat.zero_le 331⟩
  · rename_i pos
    have rank := Decimal.shortest_rank .even x.rank
    have digits := Decimal.shortest_digits_le .even x.rank
    have ne := Decimal.shortest_ne_excess x.rank
    have some : (Decimal.shortest .even x.rank).digits ≠ 0 := Decimal.shortest_digits pos
    generalize Decimal.shortest .even x.rank = d at *
    have low := Decimal.le_top (d := d) (by omega)
    have high := Decimal.top_le some (by rw [rank]; exact x.finite)
    refine ⟨?_, ?_, ?_, ?_⟩
    · obtain ⟨k, hk, -⟩ := Decimal.numeral_decimal x.negative d
      rw [hk, Decimal.rank_shift, Int.sub_add_cancel]
      exact rank
    · obtain ⟨k, hk, zero | few⟩ := Decimal.numeral_decimal x.negative d
      · rw [hk, zero]
        simpa using digits
      · rw [hk]
        exact Nat.le_of_lt few
    · obtain ⟨k, hk, -⟩ := Decimal.numeral_decimal x.negative d
      rw [hk]
      intro same
      have last := congrArg Decimal.digits same
      have power := congrArg Decimal.power same
      simp only at last power
      cases k with
      | zero =>
        apply ne
        cases d
        simp_all
      | succ k =>
        rw [Nat.pow_succ, ← Nat.mul_assoc] at last
        omega
    · unfold Decimal.top at low high
      unfold Decimal.numeral
      simp only
      split
      · cases d.power with
        | ofNat p => exact Nat.zero_le _
        | negSucc p =>
          simp only
          split <;> exact Nat.zero_le _
      · simp only [Option.getD_some, Decimal.value_exponentParts]
        omega

/-- Different amounts are written differently, for the numeral has the sign and is nearest to the rank. -/
theorem wire_injective {x y : Binary64} (h : x.wire = y.wire) : x = y := by
  have read := x.wire_isNumeral .endInValue Json.endsNumber_nil
  rw [h, y.wire_isNumeral .endInValue Json.endsNumber_nil] at read
  have same : y.numeral = x.numeral := congrArg Prod.fst (Except.ok.inj read)
  have rank : x.rank = y.rank := by
    rw [← x.numeral_fits.1, ← y.numeral_fits.1, same]
  have negative : x.negative = y.negative := by
    rw [← x.numeral_negative, ← y.numeral_negative, same]
  cases x
  cases y
  simp only [Binary64.mk.injEq]
  exact ⟨negative, rank⟩

/-- **Every amount in a document is read as a finite amount of the same sign**, and as the same amount if its
    numeral has a significand of at most `2 ^ 53` and a power of ten between `-22` and `22`. -/
theorem wire_number (x : Binary64) :
    ∃ y : Binary64, x.numeral.number = .ok (.real y) ∧ y.negative = x.negative ∧
      (x.numeral.decimal.digits ≤ 2 ^ 53 → -22 ≤ x.numeral.decimal.power → x.numeral.decimal.power ≤ 22 →
        y = x) := by
  obtain ⟨rank, digits, ne, exponent⟩ := x.numeral_fits
  have finite : x.numeral.decimal.rank < rankLimit := by
    rw [rank]
    exact x.finite
  have below := Json.scaledRank_lt digits finite ne
  let y : Binary64 := ⟨x.negative, Json.scaledRank x.numeral.decimal.digits x.numeral.decimal.power, below⟩
  have read : x.numeral.real = .ok y := by
    rw [Json.real_of_le (Nat.le_trans digits (by decide)) (Nat.le_trans exponent (by decide)),
      x.numeral_negative, ofRank?, dif_pos below]
  refine ⟨y, ?_, rfl, ?_⟩
  · unfold Numeral.number
    simp only [x.numeral_isInteger, Bool.false_eq_true, false_and, if_false]
    rw [read]
    rfl
  · intro significand low high
    have exact := Json.scaledRank_exact significand low high
    rw [rank] at exact
    cases x
    simp only [y, Binary64.mk.injEq]
    exact ⟨trivial, exact⟩

end Binary64

end PolicyDesk
