import PolicyDesk.Amount.Written
import PolicyDesk.Proofs.Json.Numeral
import PolicyDesk.Proofs.Text.Digits

/-!
# Amounts in documents are JSON numbers

* `neighbour?_rank`, `ofCount?_rank`: a decimal that is found is read as the rank it was looked for.
* `shortest_digits`: so the shortest decimal of a magnitude other than zero does not have the digits `0`.
* `Decimal.numeral`, `Decimal.text_numeral`: a decimal in a document is the text of a number, whether it is written
  with an exponent or without.
* `Binary64.wire_isNumeral`: every amount is written as a number, which is read to its end.
-/

namespace PolicyDesk

open Text (natural natural_ne_nil natural_isDigit natural_head_ne_zero)
open Json (Numeral)

/-! ## The digits of a shortest decimal -/

namespace Binary64

theorem nearestRank_zero (den : Nat) : nearestRank 0 den = 0 := by
  unfold nearestRank
  simp only [Nat.zero_mul, Nat.zero_div, Nat.log2_zero, roundHalfEven, Nat.zero_mod]
  split
  · rfl
  · simp

theorem units_ne_zero {rank : Nat} (h : rank ≠ 0) : units rank ≠ 0 := by
  have hs : significand rank ≠ 0 := by
    unfold significand
    split
    · exact h
    · exact Nat.ne_of_gt (Nat.add_pos_left (by decide) _)
  have hp : Nat.pow 2 (shift rank) ≠ 0 := Nat.ne_of_gt (Nat.pow_pos (by decide))
  exact Nat.mul_ne_zero hs hp

end Binary64

namespace Decimal

theorem rank_of_digits_zero {d : Decimal} (h : d.digits = 0) : d.rank = 0 := by
  unfold rank
  rw [h]
  split
  · rw [Nat.zero_mul]
    exact Binary64.nearestRank_zero _
  · exact Binary64.nearestRank_zero _

theorem neighbour?_rank {tie : Tie} {rank whole cut : Nat} {power : Int} {d : Decimal}
    (h : neighbour? tie rank whole cut power = some d) : d.rank = rank := by
  unfold neighbour? at h
  simp only at h
  split at h
  · cases h
  · rename_i below _
    cases h
    exact of_decide_eq_true below
  · rename_i _ above
    cases h
    exact of_decide_eq_true above
  · rename_i below above
    have hb := of_decide_eq_true below
    have ha := of_decide_eq_true above
    split at h
    · cases h
      exact hb
    · split at h
      · cases h
        exact ha
      · cases tie with
        | up =>
          cases h
          exact ha
        | even =>
          simp only at h
          split at h
          · cases h
            exact hb
          · cases h
            exact ha

theorem ofCount?_rank {tie : Tie} {rank count : Nat} {d : Decimal} (h : ofCount? tie rank count = some d) :
    d.rank = rank :=
  neighbour?_rank h

theorem dropZeros_digits {d : Decimal} (h : d.digits ≠ 0) : d.dropZeros.digits ≠ 0 := by
  rw [dropZeros]
  split
  · rename_i hz
    have smaller : d.digits / 10 ≠ 0 := by omega
    exact dropZeros_digits smaller
  · exact h
termination_by d.digits
decreasing_by omega

theorem exact_digits {rank : Nat} (h : rank ≠ 0) : (exact rank).digits ≠ 0 := by
  have hp : ∀ n, Nat.pow 5 n ≠ 0 := fun n => Nat.ne_of_gt (Nat.pow_pos (by decide))
  exact Nat.mul_ne_zero (Binary64.units_ne_zero h) (hp 1074)

/-- Only zero is written with the digits `0`. -/
theorem shortest_digits {tie : Tie} {rank : Nat} (h : rank ≠ 0) : (shortest tie rank).digits ≠ 0 := by
  unfold shortest
  rw [if_neg h]
  apply dropZeros_digits
  cases hf : (List.range 17).findSome? fun n => ofCount? tie rank (n + 1) with
  | none => exact exact_digits h
  | some d =>
    obtain ⟨n, _, hn⟩ := List.exists_of_findSome?_eq_some hf
    intro hz
    exact h ((ofCount?_rank hn).symm.trans (rank_of_digits_zero hz))

/-! ## Decimals as numbers -/

/-- The parts of an exponent: whether it is negative, and its digits. -/
def exponentParts : Int → Bool × List Char
  | .ofNat e => (false, natural e)
  | .negSucc e => (true, natural (e + 1))

/-- The parts of a decimal in a document. -/
def numeral (negative : Bool) (d : Decimal) : Numeral :=
  let ds := natural d.digits
  let exponent := d.power + ds.length - 1
  if -5 ≤ exponent ∧ exponent ≤ 15 then
    match d.power with
    | .ofNat p => ⟨negative, ds ++ List.replicate p '0', ['0'], none⟩
    | .negSucc p =>
      if p + 1 < ds.length then
        ⟨negative, ds.take (ds.length - (p + 1)), ds.drop (ds.length - (p + 1)), none⟩
      else ⟨negative, ['0'], List.replicate (p + 1 - ds.length) '0' ++ ds, none⟩
  else ⟨negative, ds.take 1, ds.drop 1, some (exponentParts exponent)⟩

theorem exponentParts_digits (e : Int) :
    (exponentParts e).2 ≠ [] ∧ ∀ c ∈ (exponentParts e).2, Text.isDigit c = true := by
  cases e with
  | ofNat e => exact ⟨natural_ne_nil e, natural_isDigit e⟩
  | negSucc e => exact ⟨natural_ne_nil (e + 1), natural_isDigit (e + 1)⟩

theorem isDigit_replicate (n : Nat) : ∀ c ∈ List.replicate n '0', Text.isDigit c = true := by
  intro c hc
  rw [List.eq_of_mem_replicate hc]
  rfl

/-- A number without exponent, from the digits before its point and behind it. -/
theorem wellFormed_of_digits {negative : Bool} {whole places : List Char}
    {exponent : Option (Bool × List Char)} (digits : ∀ c ∈ whole ++ places, Text.isDigit c = true)
    (some : whole ≠ []) (lead : whole.head? = .some '0' → whole = ['0'])
    (he : ∀ e ∈ exponent, e.2 ≠ [] ∧ ∀ c ∈ e.2, Text.isDigit c = true) :
    (⟨negative, whole, places, exponent⟩ : Numeral).WellFormed where
  whole c hc := digits c (List.mem_append_left _ hc)
  some_whole := some
  lead := lead
  places c hc := digits c (List.mem_append_right _ hc)
  exponent := he

theorem numeral_wellFormed {d : Decimal} (negative : Bool) (h : d.digits ≠ 0) :
    (d.numeral negative).WellFormed := by
  have hds := natural_isDigit d.digits
  have hlead := natural_head_ne_zero h
  have hsome := natural_ne_nil d.digits
  have hlen := List.length_pos_iff.mpr hsome
  unfold numeral
  generalize natural d.digits = ds at *
  simp only
  split
  · split
    · rename_i p _
      apply wellFormed_of_digits
      · intro c hc
        simp only [List.mem_append, List.mem_singleton] at hc
        rcases hc with (hc | hc) | rfl
        · exact hds c hc
        · exact isDigit_replicate p c hc
        · rfl
      · simp [hsome]
      · intro hz
        rw [List.head?_append_of_ne_nil _ hsome] at hz
        exact absurd hz hlead
      · simp
    · rename_i p _
      split
      · rename_i inside
        apply wellFormed_of_digits
        · rw [List.take_append_drop]
          exact hds
        · simp [hsome]
          omega
        · intro hz
          rw [List.head?_take, if_neg (by omega)] at hz
          exact absurd hz hlead
        · simp
      · apply wellFormed_of_digits
        · intro c hc
          simp only [List.mem_append, List.mem_singleton] at hc
          rcases hc with rfl | hc | hc
          · rfl
          · exact isDigit_replicate _ c hc
          · exact hds c hc
        · simp
        · intro _
          rfl
        · simp
  · apply wellFormed_of_digits
    · rw [List.take_append_drop]
      exact hds
    · simp [hsome]
    · intro hz
      rw [List.head?_take, if_neg (by decide)] at hz
      exact absurd hz hlead
    · rintro e he
      cases he
      exact exponentParts_digits _

theorem exponentParts_text (ds : List Char) (e : Int) (some : ds ≠ []) :
    ds.take 1 ++ (Numeral.pointText (ds.drop 1) ++ Numeral.exponentText (.some (exponentParts e))) =
      scientific ds e := by
  have mark : Numeral.exponentText (.some (exponentParts e)) =
      'e' :: match e with
        | .ofNat e => '+' :: natural e
        | .negSucc e => '-' :: natural (e + 1) := by
    cases e <;> rfl
  rw [mark]
  rcases ds with _ | ⟨c, _ | ⟨c', ds⟩⟩
  · exact absurd rfl some
  · rfl
  · rfl

theorem pointed_text (ds : List Char) (places : Nat) (some : ds ≠ []) (pos : 0 < places) :
    pointed ds places =
      if places < ds.length then
        ds.take (ds.length - places) ++ Numeral.pointText (ds.drop (ds.length - places))
      else ['0'] ++ Numeral.pointText (List.replicate (places - ds.length) '0' ++ ds) := by
  unfold pointed
  split
  · rename_i inside
    rw [Numeral.pointText_of_ne_nil]
    intro h
    have := List.drop_eq_nil_iff.mp h
    omega
  · rw [Numeral.pointText_of_ne_nil (by simp [some])]
    rfl

/-- A decimal in a document is the text of its parts. -/
theorem text_numeral (negative : Bool) (d : Decimal) :
    (d.numeral negative).text = (if negative then ['-'] else []) ++ d.wire := by
  have hsome := natural_ne_nil d.digits
  unfold numeral wire
  generalize natural d.digits = ds at *
  simp only
  split
  · cases hp : d.power with
    | ofNat p =>
      simp [Numeral.text, Numeral.pointText, Numeral.exponentText, positional]
    | negSucc p =>
      have neg : ¬ (0 : Int) ≤ .negSucc p := by omega
      simp only [positional, if_neg neg]
      rw [pointed_text ds (p + 1) hsome (Nat.succ_pos p)]
      split
      · simp [Numeral.text, Numeral.exponentText]
      · simp [Numeral.text, Numeral.exponentText]
  · rw [Numeral.text, exponentParts_text ds _ hsome]

end Decimal

namespace Binary64

/-- The parts of an amount in a document. -/
def numeral (x : Binary64) : Numeral :=
  if x.rank = 0 then ⟨x.negative, ['0'], ['0'], none⟩
  else (Decimal.shortest .even x.rank).numeral x.negative

theorem numeral_wellFormed (x : Binary64) : x.numeral.WellFormed := by
  unfold numeral
  split
  · exact Decimal.wellFormed_of_digits (Decimal.isDigit_replicate 2) (List.cons_ne_nil _ _) (fun _ => rfl)
      (by simp)
  · rename_i h
    exact Decimal.numeral_wellFormed x.negative (Decimal.shortest_digits h)

theorem text_numeral (x : Binary64) : x.numeral.text = x.wire := by
  have hsign : ∀ s : List Char, (if x.negative then ['-'] else []) ++ s = x.signed s := by
    intro s
    unfold signed
    split <;> rfl
  unfold numeral wire
  split
  · exact hsign ['0', '.', '0']
  · rw [Decimal.text_numeral]
    exact hsign _

/-- **An amount in a document is a JSON number.** It is read to its end, whatever follows it. -/
theorem wire_isNumeral (x : Binary64) (atEnd : Json.Cause) {s : List Glyph} (hs : Json.EndsNumber s) :
    Json.numeral atEnd (x.wire.map .char ++ s) = .ok (x.numeral, s) := by
  rw [← text_numeral]
  exact Json.numeral_text x.numeral_wellFormed hs

end Binary64

end PolicyDesk
