import PolicyDesk.Amount.Reading
import PolicyDesk.Proofs.Amount.Documents
import PolicyDesk.Proofs.Text.Blank

/-!
# Amounts in forms are read back

A form has the shortest decimal of an amount without an exponent, and the reader of a form rounds once.

* `Decimal.decimal?_plain`: a decimal without exponent is read as this decimal, perhaps with zeros at the end.
* `Amount.rankOf_of_finite`: the limits on the place of the first digit leave finite amounts alone.
* `Binary64.read_plain`: so every amount in a form is read as it is.
-/

namespace PolicyDesk

open Text (isDigit isBlank natural natural_isDigit natural_ne_nil value value_natural Stops stops_mark
  stops_nil spanDigits_append)

namespace Decimal

/-! ## Decimals without exponent -/

/-- A point with digits behind it is read to its end. -/
theorem decimal?_pointed {whole places : List Char} (hw : ∀ c ∈ whole, isDigit c = true)
    (hp : ∀ c ∈ places, isDigit c = true) (some : whole ≠ []) :
    Amount.decimal? (whole ++ '.' :: places) =
      .some ⟨value (whole ++ places), -(places.length : Int)⟩ := by
  have front : Text.spanDigits (whole ++ '.' :: places) = (whole, '.' :: places) :=
    spanDigits_append hw (stops_mark rfl places)
  have back : Text.spanDigits places = (places, []) := by
    have := spanDigits_append hp stops_nil
    rwa [List.append_nil] at this
  have filled : (whole.isEmpty && places.isEmpty) = false := by simp [some]
  unfold Amount.decimal?
  rw [front]
  simp only [Amount.fraction, back, filled, Amount.exponent?]
  simp

/-- Digits alone are read to their end. -/
theorem decimal?_whole {whole : List Char} (hw : ∀ c ∈ whole, isDigit c = true) (some : whole ≠ []) :
    Amount.decimal? whole = .some ⟨value whole, 0⟩ := by
  have front : Text.spanDigits whole = (whole, []) := by
    have := spanDigits_append hw stops_nil
    rwa [List.append_nil] at this
  have filled : (whole.isEmpty && ([] : List Char).isEmpty) = false := by simp [some]
  unfold Amount.decimal?
  rw [front]
  simp only [Amount.fraction, filled, Amount.exponent?]
  simp

/-- **A decimal without exponent is read** as this decimal, perhaps with zeros at the end. -/
theorem decimal?_plain (d : Decimal) :
    ∃ k : Nat, Amount.decimal? d.plain = some ⟨d.digits * 10 ^ k, d.power - k⟩ := by
  have digits := natural_isDigit d.digits
  have some := natural_ne_nil d.digits
  have number := value_natural d.digits
  unfold plain
  generalize natural d.digits = ds at *
  obtain ⟨n, power⟩ := d
  simp only at number ⊢
  cases power with
  | ofNat p =>
    -- without a point the zeros at the end are digits like any other
    refine ⟨p, ?_⟩
    have all : ∀ c ∈ ds ++ List.replicate p '0', isDigit c = true := by
      intro c hc
      obtain hc | hc := List.mem_append.mp hc
      · exact digits c hc
      · exact isDigit_replicate p c hc
    rw [positional, decimal?_whole all (by simp [some]), Text.value_append_replicate, number]
    simp
  | negSucc p =>
    refine ⟨0, ?_⟩
    rw [positional, pointed]
    split
    · rename_i inside
      have front : ∀ c ∈ ds.take (ds.length - (p + 1)), isDigit c = true :=
        fun c hc => digits c (List.mem_of_mem_take hc)
      have back : ∀ c ∈ ds.drop (ds.length - (p + 1)), isDigit c = true :=
        fun c hc => digits c (List.mem_of_mem_drop hc)
      have filled : ds.take (ds.length - (p + 1)) ≠ [] := by
        simp [some]
        omega
      rw [decimal?_pointed front back filled, List.take_append_drop, number, List.length_drop]
      simp only [Option.some.injEq, Decimal.mk.injEq]
      omega
    · rename_i outside
      -- the zeros in front of too few digits do not change the value
      have zero : ∀ c ∈ ['0'], isDigit c = true := isDigit_replicate 1
      have back : ∀ c ∈ List.replicate (p + 1 - ds.length) '0' ++ ds, isDigit c = true := by
        intro c hc
        obtain hc | hc := List.mem_append.mp hc
        · exact isDigit_replicate _ c hc
        · exact digits c hc
      have read := decimal?_pointed zero back (List.cons_ne_nil _ _)
      have zeros : value (['0'] ++ (List.replicate (p + 1 - ds.length) '0' ++ ds)) = n :=
        (Text.value_replicate_append (p + 1 - ds.length) ds).trans number
      rw [zeros] at read
      rw [show '0' :: '.' :: (List.replicate (p + 1 - ds.length) '0' ++ ds) =
        ['0'] ++ '.' :: (List.replicate (p + 1 - ds.length) '0' ++ ds) from rfl, read]
      simp only [Option.some.injEq, Decimal.mk.injEq, List.length_append, List.length_replicate]
      omega

/-- A text as a decimal without exponent: digits and points, and a digit at the start. -/
structure Figures (s : List Char) : Prop where
  chars : ∀ c ∈ s, isDigit c = true ∨ c = '.'
  start : ∃ c t, s = c :: t ∧ isDigit c = true

theorem figures_append {whole t : List Char} (some : whole ≠ []) (hw : ∀ c ∈ whole, isDigit c = true)
    (ht : ∀ c ∈ t, isDigit c = true ∨ c = '.') : Figures (whole ++ t) where
  chars c hc := by
    obtain hc | hc := List.mem_append.mp hc
    · exact .inl (hw c hc)
    · exact ht c hc
  start := by
    obtain ⟨c, more, rfl⟩ := List.exists_cons_of_ne_nil some
    exact ⟨c, more ++ t, rfl, hw c List.mem_cons_self⟩

theorem plain_figures (d : Decimal) : Figures d.plain := by
  have digits := natural_isDigit d.digits
  have some := natural_ne_nil d.digits
  unfold plain
  generalize natural d.digits = ds at *
  cases d.power with
  | ofNat p => exact figures_append some digits fun c hc => .inl (isDigit_replicate p c hc)
  | negSucc p =>
    rw [positional, pointed]
    split
    · rename_i inside
      have filled : ds.take (ds.length - (p + 1)) ≠ [] := by
        simp [some]
        omega
      refine figures_append filled (fun c hc => digits c (List.mem_of_mem_take hc)) fun c hc => ?_
      obtain rfl | hc := List.mem_cons.mp hc
      · exact .inr rfl
      · exact .inl (digits c (List.mem_of_mem_drop hc))
    · refine figures_append (List.cons_ne_nil '0' []) (isDigit_replicate 1) fun c hc => ?_
      obtain rfl | hc := List.mem_cons.mp hc
      · exact .inr rfl
      · obtain hc | hc := List.mem_append.mp hc
        · exact .inl (isDigit_replicate _ c hc)
        · exact .inl (digits c hc)

end Decimal

namespace Amount

/-! ## Reading them back -/

/-- The limits on the place of the first digit leave finite numbers alone. -/
theorem rankOf_of_finite {d : Decimal} (finite : d.rank < Binary64.rankLimit) : rankOf d = d.rank := by
  unfold rankOf
  split
  · rename_i zero
    exact (Decimal.rank_of_digits_zero zero).symm
  · rename_i some
    have high := Decimal.top_le some finite
    simp only
    rw [if_neg (by unfold Decimal.top at high; omega)]
    split
    · rename_i low
      by_contra positive
      have := Decimal.le_top (d := d) fun zero => positive zero.symm
      unfold Decimal.top at this
      omega
    · rfl

/-- A digit is no sign. -/
theorem splitSign_of_isDigit {c : Char} (h : isDigit c = true) (s : List Char) :
    splitSign (c :: s) = (false, c :: s) := by
  unfold splitSign
  split
  · rename_i same
    cases same
    cases h
  · rename_i same
    cases same
    cases h
  · rfl

end Amount

namespace Binary64

theorem signed_not_blank (x : Binary64) {s : List Char} (h : Decimal.Figures s) :
    ∀ c ∈ x.signed s, isBlank c = false := by
  have inside : ∀ c ∈ s, isBlank c = false := by
    intro c hc
    obtain digit | rfl := h.chars c hc
    · exact Text.isBlank_of_isDigit digit
    · rfl
  unfold signed
  split
  · intro c hc
    obtain rfl | hc := List.mem_cons.mp hc
    · rfl
    · exact inside c hc
  · exact inside

theorem splitSign_signed (x : Binary64) {s : List Char} (h : Decimal.Figures s) :
    Amount.splitSign (x.signed s) = (x.negative, s) := by
  obtain ⟨c, t, rfl, digit⟩ := h.start
  unfold signed
  split
  · rename_i negative
    rw [negative]
    rfl
  · rename_i positive
    rw [Amount.splitSign_of_isDigit digit, Bool.eq_false_iff.mpr positive]

theorem plain_not_blank (x : Binary64) : ∀ c ∈ x.plain.toList, isBlank c = false := by
  rw [plain, String.toList_ofList]
  exact x.signed_not_blank (Decimal.plain_figures _)

theorem signed_ne_nil (x : Binary64) {s : List Char} (h : Decimal.Figures s) : x.signed s ≠ [] := by
  obtain ⟨c, t, rfl, -⟩ := h.start
  unfold signed
  split <;> exact List.cons_ne_nil _ _

/-- **An amount in a form is read as it is**, whatever its size and its sign. -/
theorem read_plain (x : Binary64) : Amount.read x.plain = .ok x := by
  have figures := Decimal.plain_figures (Decimal.shortest .up x.rank)
  obtain ⟨k, number⟩ := Decimal.decimal?_plain (Decimal.shortest .up x.rank)
  have rank : Decimal.rank ⟨(Decimal.shortest .up x.rank).digits * 10 ^ k,
      (Decimal.shortest .up x.rank).power - k⟩ = x.rank := by
    rw [Decimal.rank_shift, Int.sub_add_cancel]
    exact Decimal.shortest_rank .up x.rank
  have read : Amount.ofChars (x.signed (Decimal.shortest .up x.rank).plain) = .ok x := by
    have filled : (x.signed (Decimal.shortest .up x.rank).plain).isEmpty = false :=
      List.isEmpty_eq_false_iff.mpr (x.signed_ne_nil figures)
    unfold Amount.ofChars
    rw [filled, splitSign_signed x figures]
    simp only [Bool.false_eq_true, if_false, number]
    rw [Amount.rankOf_of_finite (by rw [rank]; exact x.finite), rank, ofRank?, dif_pos x.finite]
  unfold Amount.read plain
  rw [String.toList_ofList, Text.strip_eq_self (x.signed_not_blank figures)]
  simp only [read]

theorem plain_ne_empty (x : Binary64) : x.plain ≠ "" := by
  intro empty
  have chars : x.plain.toList = [] := String.toList_eq_nil_iff.mpr empty
  rw [plain, String.toList_ofList] at chars
  exact x.signed_ne_nil (Decimal.plain_figures _) chars

end Binary64

end PolicyDesk
