import Mathlib.Tactic.SplitIfs
import PolicyDesk.Proofs.Text.Digits
import PolicyDesk.Proofs.Text.Utf8

/-!
# Percent signs

* `percentDecodeOnto_other`: a byte that is no percent sign stands for itself.
* `resolved?_digits`: digits in a path are read as they stand.
* `Unreserved`: a character that is written as it is. `percentEncode_unreserved`: only such characters are
  written; `percentEncode_eq_self`: so writing twice is writing once.
* `eq_cons_of_percentEncode`: what is written and is no percent sign was there before.
-/

namespace PolicyDesk.Text

theorem percentDecodeOnto_other {b : UInt8} (h : b ≠ 37) (read rest : List UInt8) :
    percentDecodeOnto read (b :: rest) = percentDecodeOnto (b :: read) rest := by
  rw [percentDecodeOnto]
  intro high low more hb
  exact absurd hb h

theorem percentDecodeOnto_of_none (read bytes : List UInt8) (h : ∀ b ∈ bytes, b ≠ 37) :
    percentDecodeOnto read bytes = read.reverse ++ bytes := by
  induction bytes generalizing read with
  | nil => simp [percentDecodeOnto]
  | cons b bytes ih =>
    rw [percentDecodeOnto_other (h b List.mem_cons_self), ih _ fun c hc => h c (List.mem_cons_of_mem b hc)]
    simp

/-- A digit is not sent as a percent sign. -/
theorem not_percent_of_isDigit {c : Char} (h : isDigit c = true) : ∀ b ∈ String.utf8EncodeChar c, b ≠ 37 := by
  have all : ∀ n < 10, ∀ b ∈ String.utf8EncodeChar (digitChar n), b ≠ 37 := by decide +kernel
  obtain ⟨n, small, rfl⟩ := eq_digitChar_of_isDigit h
  exact all n small

/-- Digits in a path are read as they stand. -/
theorem resolved?_digits {ds : List Char} (digits : ∀ c ∈ ds, isDigit c = true) :
    resolved? ds = some (String.ofList ds) := by
  have bytes : percentDecode (utf8 ds) = utf8 ds := by
    refine percentDecodeOnto_of_none [] _ fun b hb => ?_
    obtain ⟨c, hc, mem⟩ := List.mem_flatMap.mp hb
    exact not_percent_of_isDigit (digits c hc) b mem
  have text := Glyph.text?_ofString (String.ofList ds)
  rw [Glyph.ofString, String.toList_ofList] at text
  rw [resolved?, bytes, Glyph.ofBytes_utf8, text]

/-! ## Writing with percent signs -/

variable {reserved : Char → Bool} {s t : List Char}

/-- A character that is written as it is. -/
def Unreserved (reserved : Char → Bool) (c : Char) : Prop := c.toNat < 0x7F ∧ reserved c = false

instance (reserved : Char → Bool) : DecidablePred (Unreserved reserved) := fun c =>
  inferInstanceAs (Decidable (c.toNat < 0x7F ∧ reserved c = false))

/-- The characters that codes are made of are not reserved. -/
def AllowsCodes (reserved : Char → Bool) : Prop :=
  reserved '%' = false ∧ ∀ n < 16, reserved (capitalDigit n) = false

instance (reserved : Char → Bool) : Decidable (AllowsCodes reserved) :=
  inferInstanceAs (Decidable (reserved '%' = false ∧ ∀ n < 16, reserved (capitalDigit n) = false))

theorem Unreserved.ne {c d : Char} (h : Unreserved reserved c) (bad : reserved d = true) : c ≠ d := by
  rintro rfl
  rw [h.2] at bad
  cases bad

theorem percentEncode_append (reserved : Char → Bool) (s t : List Char) :
    percentEncode reserved (s ++ t) = percentEncode reserved s ++ percentEncode reserved t :=
  List.flatMap_append

theorem percentEncode_cons_of_unreserved {c : Char} (h : Unreserved reserved c) (s : List Char) :
    percentEncode reserved (c :: s) = c :: percentEncode reserved s := by
  have low : ¬ 0x7F ≤ c.toNat := Nat.not_le.mpr h.1
  simp [percentEncode, h.2, low]

theorem percentEncode_cons_of_reserved {c : Char} (h : ¬ Unreserved reserved c) (s : List Char) :
    percentEncode reserved (c :: s) =
      (String.utf8EncodeChar c).flatMap percentByte ++ percentEncode reserved s := by
  have coded : (0x7F ≤ c.toNat || reserved c) = true := by
    simp only [Unreserved, not_and_or, Nat.not_lt, Bool.not_eq_false] at h
    simpa using h
  simp only [percentEncode, List.flatMap_cons, coded, if_true]

/-- What is not reserved is written as it is. -/
theorem percentEncode_eq_self (h : ∀ c ∈ s, Unreserved reserved c) : percentEncode reserved s = s := by
  induction s with
  | nil => rfl
  | cons c s ih =>
    obtain ⟨first, rest⟩ := List.forall_mem_cons.mp h
    rw [percentEncode_cons_of_unreserved first, ih rest]

theorem capitalDigit_low {n : Nat} (h : n < 16) : (capitalDigit n).toNat < 0x7F ∧ capitalDigit n ≠ '%' := by
  have all : ∀ n < 16, (capitalDigit n).toNat < 0x7F ∧ capitalDigit n ≠ '%' := by decide
  exact all n h

/-- What holds of the signs that codes are made of, and of what is not reserved in the text, holds of all that is
    written. -/
theorem forall_percentEncode {P : Char → Prop} (percent : P '%') (digit : ∀ n < 16, P (capitalDigit n))
    (h : ∀ c ∈ s, Unreserved reserved c → P c) : ∀ c ∈ percentEncode reserved s, P c := by
  have byte : ∀ b : UInt8, ∀ c ∈ percentByte b, P c := by
    intro b c hc
    have small := b.toNat_lt
    simp only [percentByte, List.mem_cons, List.not_mem_nil, or_false] at hc
    obtain rfl | rfl | rfl := hc
    · exact percent
    · exact digit _ (by omega)
    · exact digit _ (by omega)
  induction s with
  | nil => exact fun c hc => by cases hc
  | cons d s ih =>
    obtain ⟨first, rest⟩ := List.forall_mem_cons.mp h
    by_cases plain : Unreserved reserved d
    · rw [percentEncode_cons_of_unreserved plain]
      exact List.forall_mem_cons.mpr ⟨first plain, ih rest⟩
    · rw [percentEncode_cons_of_reserved plain]
      refine List.forall_mem_append.mpr ⟨fun c hc => ?_, ih rest⟩
      obtain ⟨b, -, mem⟩ := List.mem_flatMap.mp hc
      exact byte b c mem

/-- **Nothing reserved is written.** -/
theorem percentEncode_unreserved (codes : AllowsCodes reserved) (s : List Char) :
    ∀ c ∈ percentEncode reserved s, Unreserved reserved c :=
  forall_percentEncode ⟨by decide, codes.1⟩ (fun n h => ⟨(capitalDigit_low h).1, codes.2 n h⟩)
    fun _ _ plain => plain

/-- A character is one byte if it is ASCII, and bytes that are not ASCII otherwise. -/
theorem utf8EncodeChar_cases (c : Char) :
    c.toNat < 0x80 ∧ String.utf8EncodeChar c = [UInt8.ofNat c.toNat] ∨
      0x80 ≤ c.toNat ∧ String.utf8EncodeChar c ≠ [] ∧ ∀ b ∈ String.utf8EncodeChar c, 0x80 ≤ b.toNat := by
  have value : c.toNat = c.val.toNat := rfl
  have high : ∀ {n : Nat}, 0x80 ≤ n → n < 256 → 0x80 ≤ (UInt8.ofNat n).toNat := by
    intro n low small
    rw [UInt8.toNat_ofNat_of_lt' small]
    exact low
  unfold String.utf8EncodeChar
  simp only
  split_ifs with one two three
  · exact .inl ⟨by omega, rfl⟩
  all_goals
    refine .inr ⟨by omega, List.cons_ne_nil _ _, ?_⟩
    simp only [List.forall_mem_cons, List.not_mem_nil, false_implies, implies_true, and_true]
    refine ⟨high (by omega) (by omega), ?_⟩
  · exact high (by omega) (by omega)
  · exact ⟨high (by omega) (by omega), high (by omega) (by omega)⟩
  · exact ⟨high (by omega) (by omega), high (by omega) (by omega), high (by omega) (by omega)⟩

/-- A reserved character is written as a percent sign and more. -/
theorem code_starts (c : Char) :
    ∃ b bs, String.utf8EncodeChar c = b :: bs ∧ (String.utf8EncodeChar c).flatMap percentByte =
      '%' :: capitalDigit (b.toNat / 16) :: capitalDigit (b.toNat % 16) :: bs.flatMap percentByte := by
  cases h : String.utf8EncodeChar c with
  | nil =>
    obtain ⟨-, one⟩ | ⟨-, some, -⟩ := utf8EncodeChar_cases c
    · rw [one] at h
      cases h
    · exact absurd h some
  | cons b bs => exact ⟨b, bs, rfl, rfl⟩

/-- What is written and is no percent sign was there before. -/
theorem eq_cons_of_percentEncode {c : Char} (h : percentEncode reserved s = c :: t) (sign : c ≠ '%') :
    ∃ r, s = c :: r ∧ percentEncode reserved r = t := by
  cases s with
  | nil => cases h
  | cons d r =>
    by_cases plain : Unreserved reserved d
    · rw [percentEncode_cons_of_unreserved plain] at h
      obtain ⟨rfl, rest⟩ := List.cons.inj h
      exact ⟨r, rfl, rest⟩
    · obtain ⟨b, bs, -, code⟩ := code_starts d
      rw [percentEncode_cons_of_reserved plain, code] at h
      exact absurd (List.cons.inj h).1.symm sign

theorem percentEncode_eq_nil_iff : percentEncode reserved s = [] ↔ s = [] := by
  constructor
  · intro h
    cases s with
    | nil => rfl
    | cons c s =>
      by_cases plain : Unreserved reserved c
      · rw [percentEncode_cons_of_unreserved plain] at h
        cases h
      · obtain ⟨b, bs, -, code⟩ := code_starts c
        rw [percentEncode_cons_of_reserved plain, code] at h
        cases h
  · rintro rfl
    rfl

end PolicyDesk.Text
