import Mathlib.Algebra.Group.Nat.Defs
import Mathlib.Data.List.Basic
import PolicyDesk.Text.Integer

/-!
# Numbers in decimal

* `natural_isDigit`, `natural_ne_nil`, `natural_head_ne_zero`: a number is written in digits, at least one,
  and only zero starts with a zero.
* `value_natural`: the digits denote the number; so different numbers are written differently
  (`natural_injective`).
* `value_append`: digits behind others; `value_replicate_append`, `value_append_replicate`: zeros at either end; so
  `value_zeroPadded`.
* `lt_pow_natural_length`, `pow_natural_length_le`: how many digits a number has.
* `spanDigits_append`: a run of digits is split off whole.
* `readUnsigned_digits`, `readUnsigned_natural`: a number is read as it is written.
* `readUnsigned_eq_ok`, `readSigned_eq_ok`: what is read as a number is digits, perhaps behind a sign.
* `IsUnsigned`, `readUnsigned_eq_ok_iff`: exactly which texts are read as a number up to a greatest one.
-/

namespace PolicyDesk.Text

theorem isDigit_digitChar {n : Nat} (h : n < 10) : isDigit (digitChar n) = true := by
  have all : ∀ k < 10, isDigit (digitChar k) = true := by decide
  exact all n h

/-- A digit is one of ten. -/
theorem eq_digitChar_of_isDigit {c : Char} (h : isDigit c = true) : ∃ n < 10, c = digitChar n := by
  simp only [isDigit, Bool.and_eq_true, decide_eq_true_eq] at h
  have low : 48 ≤ c.toNat := h.1
  have high : c.toNat ≤ 57 := h.2
  refine ⟨c.toNat - 48, by omega, ?_⟩
  rw [digitChar, Nat.add_sub_cancel' low, Char.ofNat_toNat]

theorem digitValue_digitChar {n : Nat} (h : n < 10) : digitValue (digitChar n) = n := by
  have all : ∀ k < 10, digitValue (digitChar k) = k := by decide
  exact all n h

theorem digitChar_ne_zero {n : Nat} (h : n < 10) (pos : n ≠ 0) : digitChar n ≠ '0' := by
  have all : ∀ k < 10, k ≠ 0 → digitChar k ≠ '0' := by decide
  exact all n h pos

theorem natural_ne_nil (n : Nat) : natural n ≠ [] := by
  unfold natural
  split <;> simp

theorem natural_isDigit (n : Nat) : ∀ c ∈ natural n, isDigit c = true := by
  intro c hc
  rw [natural] at hc
  split at hc
  · rename_i h
    rw [List.mem_singleton.mp hc]
    exact isDigit_digitChar h
  · rcases List.mem_append.mp hc with hc | hc
    · exact natural_isDigit (n / 10) c hc
    · rw [List.mem_singleton.mp hc]
      exact isDigit_digitChar (Nat.mod_lt n (by decide))
termination_by n
decreasing_by omega

/-- Only zero starts with a zero. -/
theorem natural_head_ne_zero {n : Nat} (pos : n ≠ 0) : (natural n).head? ≠ some '0' := by
  rw [natural]
  split
  · rename_i h
    simpa using digitChar_ne_zero h pos
  · rename_i h
    rw [List.head?_append_of_ne_nil _ (natural_ne_nil _)]
    exact natural_head_ne_zero (by omega)
termination_by n
decreasing_by omega

theorem valueFrom_append (start : Nat) (ds es : List Char) :
    valueFrom start (ds ++ es) = valueFrom (valueFrom start ds) es :=
  List.foldl_append

theorem le_valueFrom (start : Nat) (ds : List Char) : start ≤ valueFrom start ds := by
  induction ds generalizing start with
  | nil => exact Nat.le_refl _
  | cons d ds ih =>
    have step := ih (10 * start + digitValue d)
    unfold valueFrom at *
    rw [List.foldl_cons]
    omega

/-- Digits behind others count as many places as there are of them. -/
theorem value_append (ds es : List Char) : value (ds ++ es) = value ds * 10 ^ es.length + value es := by
  have shifted : ∀ start, valueFrom start es = start * 10 ^ es.length + value es := by
    induction es with
    | nil => simp [valueFrom, value]
    | cons d es ih =>
      intro start
      have next : ∀ n, valueFrom n (d :: es) = valueFrom (10 * n + digitValue d) es := fun _ => rfl
      rw [value, next, next, ih, ih (10 * 0 + digitValue d), List.length_cons, Nat.pow_succ, Nat.mul_comm _ 10,
        ← Nat.mul_assoc, Nat.mul_comm start 10, Nat.mul_zero, Nat.zero_add, Nat.add_mul, Nat.add_assoc]
  rw [value, valueFrom_append, shifted]
  rfl

theorem value_natural (n : Nat) : value (natural n) = n := by
  rw [natural]
  split
  · rename_i h
    simp [value, valueFrom, digitValue_digitChar h]
  · have ih := value_natural (n / 10)
    rw [value, valueFrom_append, ← value, ih]
    simp only [valueFrom, List.foldl_cons, List.foldl_nil,
      digitValue_digitChar (Nat.mod_lt n (by decide : 0 < 10))]
    omega
termination_by n
decreasing_by omega

theorem natural_injective {m n : Nat} (h : natural m = natural n) : m = n := by
  rw [← value_natural m, h, value_natural]

/-! ## Zeros at either end -/

theorem value_replicate_append (n : Nat) (ds : List Char) : value (List.replicate n '0' ++ ds) = value ds := by
  induction n with
  | zero => rfl
  | succ n ih => exact ih

theorem value_append_replicate (ds : List Char) (n : Nat) :
    value (ds ++ List.replicate n '0') = value ds * 10 ^ n := by
  induction n with
  | zero => simp
  | succ n ih =>
    rw [List.replicate_succ', ← List.append_assoc, value, valueFrom_append, ← value, ih, Nat.pow_succ,
      ← Nat.mul_assoc, Nat.mul_comm _ 10]
    rfl

/-! ## How many digits a number has -/

theorem natural_length_pos (n : Nat) : 0 < (natural n).length := List.length_pos_iff.mpr (natural_ne_nil n)

theorem lt_pow_natural_length (n : Nat) : n < 10 ^ (natural n).length := by
  rw [natural]
  split
  · rename_i h
    exact h
  · have ih := lt_pow_natural_length (n / 10)
    rw [List.length_append, List.length_singleton, Nat.pow_succ]
    omega
termination_by n
decreasing_by omega

theorem pow_natural_length_le {n : Nat} (pos : n ≠ 0) : 10 ^ ((natural n).length - 1) ≤ n := by
  rw [natural]
  split
  · rw [List.length_singleton]
    omega
  · have ih := pow_natural_length_le (n := n / 10) (by omega)
    have some := natural_length_pos (n / 10)
    obtain ⟨k, hk⟩ : ∃ k, (natural (n / 10)).length = k + 1 := ⟨_, (Nat.succ_pred (by omega)).symm⟩
    rw [hk, Nat.add_sub_cancel] at ih
    rw [List.length_append, List.length_singleton, hk, Nat.add_sub_cancel, Nat.pow_succ]
    omega
termination_by n
decreasing_by omega

theorem natural_length_le {n k : Nat} (pos : 0 < k) (h : n < 10 ^ k) : (natural n).length ≤ k := by
  by_cases zero : n = 0
  · subst zero
    simpa [natural] using Nat.succ_le_of_lt pos
  · have some := natural_length_pos n
    have below := Nat.lt_of_le_of_lt (pow_natural_length_le zero) h
    rw [Nat.pow_lt_pow_iff_right (by decide)] at below
    omega

theorem natural_length_eq {n k : Nat} (low : 10 ^ k ≤ n) (high : n < 10 ^ (k + 1)) :
    (natural n).length = k + 1 := by
  have pos : n ≠ 0 := Nat.ne_of_gt (Nat.lt_of_lt_of_le (Nat.pow_pos (by decide)) low)
  have some := natural_length_pos n
  have above := Nat.lt_of_le_of_lt low (lt_pow_natural_length n)
  have below := Nat.lt_of_le_of_lt (pow_natural_length_le pos) high
  rw [Nat.pow_lt_pow_iff_right (by decide)] at above below
  omega

/-! ## Numbers with zeros in front -/

theorem zeroPadded_isDigit (width n : Nat) : ∀ c ∈ zeroPadded width n, isDigit c = true := by
  intro c hc
  obtain hc | hc := List.mem_append.mp hc
  · rw [List.eq_of_mem_replicate hc]
    rfl
  · exact natural_isDigit n c hc

theorem value_zeroPadded (width n : Nat) : value (zeroPadded width n) = n :=
  (value_replicate_append _ _).trans (value_natural n)

theorem zeroPadded_length_pos (width n : Nat) : 0 < (zeroPadded width n).length := by
  have some := natural_length_pos n
  rw [zeroPadded, List.length_append]
  omega

theorem zeroPadded_length {width n : Nat} (pos : 0 < width) (h : n < 10 ^ width) :
    (zeroPadded width n).length = width := by
  have fits := natural_length_le pos h
  rw [zeroPadded, List.length_append, List.length_replicate]
  omega

/-! ## Runs of digits -/

/-- A text that does not start with a digit. -/
def Stops (s : List Char) : Prop := ∀ c ∈ s.head?, isDigit c = false

theorem takeWhile_isDigit_append {ds s : List Char} (hd : ∀ c ∈ ds, isDigit c = true) (hs : Stops s) :
    (ds ++ s).takeWhile isDigit = ds := by
  rw [List.takeWhile_append_of_pos hd]
  cases s with
  | nil => simp
  | cons c s =>
    have stop := hs c rfl
    simp [stop]

/-- A run of digits is split off whole. -/
theorem spanDigits_append {ds s : List Char} (hd : ∀ c ∈ ds, isDigit c = true) (hs : Stops s) :
    spanDigits (ds ++ s) = (ds, s) := by
  have rest : (ds ++ s).dropWhile isDigit = s := by
    rw [List.dropWhile_append_of_pos hd]
    cases s with
    | nil => rfl
    | cons c s =>
      have stop := hs c rfl
      exact List.dropWhile_cons_of_neg (by simp [stop])
  rw [spanDigits, takeWhile_isDigit_append hd hs, rest]

theorem stops_mark {c : Char} (h : isDigit c = false) (s : List Char) : Stops (c :: s) := by
  intro d hd
  cases hd
  exact h

theorem stops_nil : Stops [] := by
  intro d hd
  cases hd

/-! ## Reading a number -/

/-- Digits are read as their number unless that is too large. -/
theorem digitsFrom_eq {most start : Nat} {excess : IntegerFault} {ds : List Char}
    (digits : ∀ c ∈ ds, isDigit c = true) (h : valueFrom start ds ≤ most) :
    digitsFrom most excess start ds = .ok (valueFrom start ds) := by
  induction ds generalizing start with
  | nil => rfl
  | cons c ds ih =>
    have digit := digits c List.mem_cons_self
    have next : valueFrom start (c :: ds) = valueFrom (10 * start + digitValue c) ds := rfl
    rw [next] at h ⊢
    have fits := Nat.le_trans (le_valueFrom _ ds) h
    rw [digitsFrom, if_pos digit]
    simp only
    rw [if_pos fits]
    exact ih (fun d hd => digits d (List.mem_cons_of_mem c hd)) h

/-- Digits are read as the number that they denote, also with zeros in front. -/
theorem readUnsigned_digits {most : Nat} {ds : List Char} (some : ds ≠ []) (digits : ∀ c ∈ ds, isDigit c = true)
    (h : value ds ≤ most) : readUnsigned most ds = .ok (value ds) := by
  have read : digitsFrom most .tooLarge 0 ds = .ok (value ds) := digitsFrom_eq digits h
  unfold readUnsigned
  split
  · exact absurd rfl some
  · cases digits '+' List.mem_cons_self
  · cases digits '+' List.mem_cons_self
  · exact read

/-- **A number is read as it is written** in decimal. -/
theorem readUnsigned_natural {most n : Nat} (h : n ≤ most) : readUnsigned most (natural n) = .ok n := by
  have read : value (natural n) ≤ most → readUnsigned most (natural n) = .ok (value (natural n)) :=
    readUnsigned_digits (natural_ne_nil n) (natural_isDigit n)
  rw [value_natural] at read
  exact read h

/-! ## Texts that are read as a number -/

/-- What is read was digits, and their number. -/
theorem digitsFrom_eq_ok {most start n : Nat} {excess : IntegerFault} {ds : List Char}
    (h : digitsFrom most excess start ds = .ok n) : (∀ c ∈ ds, isDigit c = true) ∧ n = valueFrom start ds := by
  induction ds generalizing start with
  | nil =>
    cases h
    exact ⟨fun _ mem => (by cases mem), rfl⟩
  | cons c ds ih =>
    rw [digitsFrom] at h
    split at h
    · rename_i digit
      simp only at h
      split at h
      · obtain ⟨digits, value⟩ := ih h
        exact ⟨List.forall_mem_cons.mpr ⟨digit, digits⟩, value⟩
      · cases h
    · cases h

/-- The text behind a plus sign, if it starts with one. -/
def unsigned : List Char → List Char
  | '+' :: rest => rest
  | s => s

theorem readUnsigned_eq_ok {most n : Nat} {s : List Char} (h : readUnsigned most s = .ok n) :
    s ≠ [] ∧ (∀ c ∈ unsigned s, isDigit c = true) ∧ n = value (unsigned s) := by
  unfold readUnsigned at h
  split at h
  · cases h
  · cases h
  · exact ⟨List.cons_ne_nil _ _, digitsFrom_eq_ok h⟩
  · rename_i some _ plain
    have same : unsigned s = s := by
      unfold unsigned
      split
      · exact (plain _ rfl).elim
      · rfl
    rw [same]
    exact ⟨some, digitsFrom_eq_ok h⟩

theorem digitsFrom_le {most start n : Nat} {excess : IntegerFault} {ds : List Char} (hs : start ≤ most)
    (h : digitsFrom most excess start ds = .ok n) : n ≤ most := by
  induction ds generalizing start with
  | nil =>
    cases h
    exact hs
  | cons c ds ih =>
    rw [digitsFrom] at h
    split at h
    · simp only at h
      split at h
      · rename_i fits
        exact ih fits h
      · cases h
    · cases h

/-- The text is a number up to `most`: digits, at least one, perhaps behind a plus sign. -/
structure IsUnsigned (most : Nat) (s : List Char) (n : Nat) : Prop where
  some : unsigned s ≠ []
  digits : ∀ c ∈ unsigned s, isDigit c = true
  value : value (unsigned s) = n
  fits : n ≤ most

/-- **Exactly the numbers up to `most` are read.** -/
theorem readUnsigned_eq_ok_iff {most n : Nat} {s : List Char} :
    readUnsigned most s = .ok n ↔ IsUnsigned most s n := by
  constructor
  · intro h
    obtain ⟨-, digits, rfl⟩ := readUnsigned_eq_ok h
    refine ⟨?some, digits, rfl, ?fits⟩
    all_goals unfold readUnsigned at h
    case some =>
      split at h
      · cases h
      · cases h
      · rename_i rest more
        exact fun none => more (none ▸ rfl)
      · rename_i some _ plain
        unfold unsigned
        split
        · exact (plain _ rfl).elim
        · exact some
    case fits =>
      split at h
      · cases h
      · cases h
      · exact digitsFrom_le (Nat.zero_le most) h
      · exact digitsFrom_le (Nat.zero_le most) h
  · rintro ⟨some, digits, rfl, fits⟩
    have read : digitsFrom most .tooLarge 0 (unsigned s) = .ok (Text.value (unsigned s)) :=
      digitsFrom_eq digits fits
    unfold readUnsigned
    split
    · exact absurd rfl some
    · exact absurd rfl some
    · exact read
    · rename_i plain
      have same : unsigned s = s := by
        unfold unsigned
        split
        · exact (plain _ rfl).elim
        · rfl
      rwa [same] at read ⊢

/-- A signed number is read as an unsigned one, unless there is a minus sign in front. -/
theorem readSigned_eq_ok {least most : Nat} {n : Int} {s : List Char} (h : readSigned least most s = .ok n) :
    (∃ m : Nat, readUnsigned most s = .ok m ∧ n = m) ∨ ∃ ds, s = '-' :: ds ∧ ∀ c ∈ ds, isDigit c = true := by
  unfold readSigned at h
  split at h
  · cases h
  · rename_i ds _
    right
    cases read : digitsFrom least .tooSmall 0 ds with
    | error e =>
      rw [read] at h
      cases h
    | ok m => exact ⟨ds, rfl, (digitsFrom_eq_ok read).1⟩
  · left
    cases read : readUnsigned most s with
    | error e =>
      rw [read] at h
      cases h
    | ok m =>
      rw [read] at h
      cases h
      exact ⟨m, rfl, rfl⟩

end PolicyDesk.Text
