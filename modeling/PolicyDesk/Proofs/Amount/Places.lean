import Mathlib.Tactic.Linarith
import Mathlib.Data.Rat.Lemmas
import Mathlib.Algebra.Order.Field.Basic
import PolicyDesk.Console.Table
import PolicyDesk.Page.Entry
import PolicyDesk.Proofs.Amount.Nearest
import PolicyDesk.Proofs.Amount.Plain
import PolicyDesk.Proofs.Text.Pieces

/-!
# Amounts with two places are correctly rounded

* `Binary64.toRat`: the rational number that an amount is; `Amount.rational?`: the one that a text denotes.
* `Binary64.shown`: the amount in whole hundredths.
* `abs_shown_sub_le`, `shown_mono`: it is off by half a hundredth at most, and rounding keeps the order.
* `IsTwoPlaces`, `twoPlaces_isTwoPlaces`: the form of an amount with two places.
* `rational?_twoPlaces`: the text denotes the rounded amount.
* `Console.PrintsPremium`: what the table prints in the column of premiums.
* `premiums_are_shown_to_the_nearest_hundredth`: page and table show one text, the rounded amount.
-/

namespace PolicyDesk

open Text (isDigit natural value)

namespace Binary64

/-! ## Rounding to hundredths -/

/-- The sign of a number as a factor. -/
def sign (negative : Bool) : ℚ := if negative then -1 else 1

/-- The rational number that the amount is. -/
def toRat (x : Binary64) : ℚ := sign x.negative * (units x.rank / unitsPerOne)

/-- The amount in whole hundredths, as a rational number. -/
def shown (x : Binary64) : ℚ := sign x.negative * (x.cents / 100)

theorem abs_sign (negative : Bool) : |sign negative| = 1 := by
  cases negative <;> simp [sign]

/-- Rounding to a whole number keeps the order. -/
theorem roundHalfEven_mono {num num' den : Nat} (hd : 0 < den) (h : num ≤ num') :
    roundHalfEven num den ≤ roundHalfEven num' den := by
  have low := (roundHalfEven_bounds num hd).2
  have high := (roundHalfEven_bounds num' hd).1
  by_contra less
  rw [Nat.not_le] at less
  have step : (2 * roundHalfEven num' den + 1) * den + den ≤ 2 * roundHalfEven num den * den := by
    rw [← Nat.succ_mul]
    exact Nat.mul_le_mul_right den (by omega)
  -- both lie on the same midpoint, so they are the same
  have same : num = num' := by omega
  rw [same] at less
  exact Nat.lt_irrefl _ less

theorem roundHalfEven_zero {den : Nat} (hd : 0 < den) : roundHalfEven 0 den = 0 := by
  rw [roundHalfEven, Nat.zero_mod, Nat.zero_div, if_pos hd]

/-- The nearest whole number of hundredths is off by half a hundredth at most. -/
theorem abs_hundredths_sub_le (num : Nat) {den : Nat} (hd : 0 < den) :
    |(roundHalfEven (num * 100) den : ℚ) / 100 - num / den| ≤ 1 / 200 := by
  obtain ⟨low, high⟩ := roundHalfEven_bounds (num * 100) hd
  generalize roundHalfEven (num * 100) den = r at low high ⊢
  have pos : (0 : ℚ) < den := by exact_mod_cast hd
  have low : (2 * (num * 100) : ℚ) ≤ (2 * r + 1) * den := by exact_mod_cast low
  have high : (2 * r * den : ℚ) ≤ 2 * (num * 100) + den := by exact_mod_cast high
  have below : (num : ℚ) / den ≤ r / 100 + 1 / 200 := by
    rw [div_le_iff₀ pos]
    linarith
  have above : (r : ℚ) / 100 - 1 / 200 ≤ num / den := by
    rw [le_div_iff₀ pos]
    linarith
  rw [abs_le]
  constructor <;> linarith

/-- Magnitudes in order have hundredths in order. -/
theorem hundredths_mono {num num' den : Nat} (hd : 0 < den) (h : (num : ℚ) / den ≤ num' / den) :
    (roundHalfEven (num * 100) den : ℚ) / 100 ≤ roundHalfEven (num' * 100) den / 100 := by
  rw [div_le_div_iff_of_pos_right (by exact_mod_cast hd), Nat.cast_le] at h
  have whole := roundHalfEven_mono hd (Nat.mul_le_mul_right 100 h)
  exact div_le_div_of_nonneg_right (by exact_mod_cast whole) (by norm_num)

/-- **The rounded amount is off by half a hundredth at most.** -/
theorem abs_shown_sub_le (x : Binary64) : |x.shown - x.toRat| ≤ 1 / 200 := by
  rw [shown, toRat, ← mul_sub, abs_mul, abs_sign, one_mul]
  exact abs_hundredths_sub_le (units x.rank) unitsPerOne_pos

/-- What keeps the order of two magnitudes, and zero, keeps the order of the numbers with their signs. -/
theorem sign_mul_mono {s t : Bool} {a b c d : ℚ} (ha : 0 ≤ a) (hb : 0 ≤ b) (hc : 0 ≤ c)
    (hd : 0 ≤ d) (up : a ≤ b → c ≤ d) (down : b ≤ a → d ≤ c) (zero : b = 0 → d = 0)
    (h : sign s * a ≤ sign t * b) : sign s * c ≤ sign t * d := by
  cases s <;> cases t <;> simp only [sign, if_true, if_false, Bool.false_eq_true, one_mul, neg_mul] at h ⊢
  case false.false => exact up h
  case false.true =>
    -- a number without a minus sign is at most one with it only if both are zero
    have none : b = 0 := by linarith
    have less := up (by linarith)
    rw [zero none] at less ⊢
    linarith
  case true.false => linarith
  case true.true => exact neg_le_neg (down (neg_le_neg_iff.mp h))

/-- **Rounding keeps the order of amounts**, whatever their signs. -/
theorem shown_mono {x y : Binary64} (h : x.toRat ≤ y.toRat) : x.shown ≤ y.shown := by
  have fraction : ∀ m n : Nat, (0 : ℚ) ≤ m / n := fun m n => div_nonneg (Nat.cast_nonneg m) (Nat.cast_nonneg n)
  refine sign_mul_mono (fraction _ _) (fraction _ _) (fraction _ 100) (fraction _ 100)
    (hundredths_mono unitsPerOne_pos) (hundredths_mono unitsPerOne_pos) (fun none => ?_) h
  have units : units y.rank = 0 := by
    have pos : (unitsPerOne : ℚ) ≠ 0 := Nat.cast_ne_zero.mpr unitsPerOne_pos.ne'
    exact Nat.cast_eq_zero.mp ((div_eq_zero_iff.mp none).resolve_right pos)
  rw [cents, units, Nat.zero_mul, roundHalfEven_zero unitsPerOne_pos, Nat.cast_zero, zero_div]

end Binary64

/-! ## The text -/

/-- The rational number that a decimal is. -/
def Decimal.toRat (d : Decimal) : ℚ := d.digits * (10 : ℚ) ^ d.power

/-- The rational number that a text denotes: an optional sign, and a decimal. -/
def Amount.rational? (s : List Char) : Option ℚ :=
  (Amount.decimal? (Amount.splitSign s).2).map fun d => Binary64.sign (Amount.splitSign s).1 * d.toRat

/-- The text is an amount with two places: perhaps a minus sign, digits of which the first is no superfluous zero, a
    point, and two digits. -/
structure IsTwoPlaces (s : List Char) : Prop where
  parts : ∃ whole tenth hundredth,
    (s = whole ++ ['.', tenth, hundredth] ∨ s = '-' :: (whole ++ ['.', tenth, hundredth])) ∧
    whole ≠ [] ∧ (∀ c ∈ whole, isDigit c = true) ∧ (whole.head? = some '0' → whole = ['0']) ∧
    isDigit tenth = true ∧ isDigit hundredth = true

namespace Binary64

theorem zeroPadded_cents (x : Binary64) :
    ∃ tenth hundredth, Text.zeroPadded 2 (x.cents % 100) = [tenth, hundredth] := by
  have length : (Text.zeroPadded 2 (x.cents % 100)).length = 2 :=
    Text.zeroPadded_length (by decide) (Nat.mod_lt _ (by decide))
  exact List.length_eq_two.mp length

/-- **The form of an amount with two places.** -/
theorem twoPlaces_isTwoPlaces (x : Binary64) : IsTwoPlaces x.twoPlaces := by
  obtain ⟨tenth, hundredth, places⟩ := x.zeroPadded_cents
  have digits := Text.zeroPadded_isDigit 2 (x.cents % 100)
  rw [places] at digits
  obtain ⟨first, second⟩ : isDigit tenth = true ∧ isDigit hundredth = true := by simpa using digits
  refine ⟨natural (x.cents / 100), tenth, hundredth, ?_, Text.natural_ne_nil _, Text.natural_isDigit _, ?_, first,
    second⟩
  · unfold twoPlaces signed
    rw [places]
    split
    · exact .inr rfl
    · exact .inl rfl
  · intro lead
    by_cases none : x.cents / 100 = 0
    · rw [none]
      decide +kernel
    · exact absurd lead (Text.natural_head_ne_zero none)

/-- **The text denotes the rounded amount.** -/
theorem rational?_twoPlaces (x : Binary64) : Amount.rational? x.twoPlaces = some x.shown := by
  have front := Text.natural_isDigit (x.cents / 100)
  have back := Text.zeroPadded_isDigit 2 (x.cents % 100)
  have some := Text.natural_ne_nil (x.cents / 100)
  have figures : Decimal.Figures (natural (x.cents / 100) ++ '.' :: Text.zeroPadded 2 (x.cents % 100)) := by
    refine Decimal.figures_append some front fun c mem => ?_
    obtain rfl | mem := List.mem_cons.mp mem
    · exact .inr rfl
    · exact .inl (back c mem)
  have length : (Text.zeroPadded 2 (x.cents % 100)).length = 2 :=
    Text.zeroPadded_length (by decide) (Nat.mod_lt _ (by decide))
  have number : value (natural (x.cents / 100) ++ Text.zeroPadded 2 (x.cents % 100)) = x.cents := by
    rw [Text.value_append, Text.value_natural, Text.value_zeroPadded, length]
    omega
  unfold Amount.rational? twoPlaces shown
  rw [splitSign_signed x figures, Decimal.decimal?_pointed front back some, number, length]
  simp only [Option.map_some, Decimal.toRat, Nat.cast_ofNat]
  have power : (10 : ℚ) ^ (-2 : Int) = 100⁻¹ := by norm_num
  rw [power, div_eq_mul_inv]

end Binary64

/-! ## The two front ends -/

/-- The table prints the text in the column of premiums: the line of the policy goes on with it behind the columns of
    identifier, number and type, with blanks up to the width of the column and nothing else in front of it, and the
    table has this line. -/
structure Console.PrintsPremium (p : Policy) (text : List Char) : Prop where
  column : ∃ identifier others, Console.row p =
    Text.padRight 6 identifier ++ ' ' :: (Text.padRight 20 p.number.toList ++ ' ' ::
      (Text.padRight 14 p.kind.toList ++ ' ' :: (List.replicate (12 - text.length) ' ' ++ (text ++ ' ' :: others))))
  line : ∀ ps, p ∈ ps → ∃ lines, (Console.table ps).toList = Text.joined ['\n'] lines ∧ Console.row p ∈ lines

theorem Console.printsPremium (p : Policy) : Console.PrintsPremium p p.premium.twoPlaces where
  column := by
    refine ⟨natural p.id.toNat, ?others, ?row⟩
    case row =>
      simp only [Console.row, Console.line, Text.joined, Text.padLeft, List.append_assoc, List.cons_append,
        List.nil_append]
      rfl
  line ps mem := by
    have some : ps.isEmpty = false := List.isEmpty_eq_false_iff.mpr (List.ne_nil_of_mem mem)
    refine ⟨Console.headings :: ps.map Console.row, ?_, List.mem_cons_of_mem _ (List.mem_map_of_mem mem)⟩
    rw [Console.table, some]
    exact String.toList_ofList

/-- **A premium is shown to the nearest hundredth, on the page as in the table.** For every policy, whatever the size
    and the sign of its premium: the page has the text that the table prints; it has two places; the number that it
    denotes is off by half a hundredth at most; and a policy whose premium is not less is shown with a number that is
    not less. -/
theorem premiums_are_shown_to_the_nearest_hundredth (p : Policy) :
    let text := (Page.Entry.ofPolicy p).premium.toList
    Console.PrintsPremium p text ∧ IsTwoPlaces text ∧
      ∃ q, Amount.rational? text = some q ∧ |q - p.premium.toRat| ≤ 1 / 200 ∧
        ∀ p' : Policy, p.premium.toRat ≤ p'.premium.toRat →
          ∃ q', Amount.rational? (Page.Entry.ofPolicy p').premium.toList = some q' ∧ q ≤ q' := by
  have page : ∀ p : Policy, (Page.Entry.ofPolicy p).premium.toList = p.premium.twoPlaces :=
    fun _ => String.toList_ofList
  intro text
  have same : text = p.premium.twoPlaces := page p
  rw [same]
  refine ⟨Console.printsPremium p, p.premium.twoPlaces_isTwoPlaces, p.premium.shown,
    p.premium.rational?_twoPlaces, p.premium.abs_shown_sub_le, fun p' le => ⟨p'.premium.shown, ?_, ?_⟩⟩
  · rw [page p']
    exact p'.premium.rational?_twoPlaces
  · exact Binary64.shown_mono le

/-- Two premiums next to a midpoint between hundredths: the smaller falls short of it, the larger is beyond it. -/
theorem premiums_next_to_midpoints_keep_their_order :
    ∃ small large : Policy, small.premium.toRat ≤ large.premium.toRat ∧
      (Page.Entry.ofPolicy small).premium = "2.67" ∧ (Page.Entry.ofPolicy large).premium = "2.69" ∧
      ∃ q q', Amount.rational? "2.67".toList = some q ∧ Amount.rational? "2.69".toList = some q' ∧ q ≤ q' := by
  let policy (premium : Binary64) : Policy := ⟨7, "P-7", "Home", premium, .epoch, .epoch, true, 5⟩
  -- the amounts nearest to 2.675 and 2.685
  let small := policy ⟨false, 0x4005666666666666, by decide +kernel⟩
  let large := policy ⟨false, 0x40057ae147ae147b, by decide +kernel⟩
  have units : Binary64.units small.premium.rank ≤ Binary64.units large.premium.rank := by decide +kernel
  have le : small.premium.toRat ≤ large.premium.toRat :=
    mul_le_mul_of_nonneg_left (div_le_div_of_nonneg_right (Nat.cast_le.mpr units) (Nat.cast_nonneg _))
      (by norm_num [Binary64.sign, small, policy])
  have texts : (Page.Entry.ofPolicy small).premium = "2.67" ∧ (Page.Entry.ofPolicy large).premium = "2.69" := by
    decide +kernel
  obtain ⟨-, -, q, shown, -, order⟩ := premiums_are_shown_to_the_nearest_hundredth small
  obtain ⟨q', shown', keep⟩ := order large le
  rw [texts.1] at shown
  rw [texts.2] at shown'
  exact ⟨small, large, le, texts.1, texts.2, q, q', shown, shown', keep⟩

end PolicyDesk
