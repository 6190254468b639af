import Mathlib.Tactic.SplitIfs
import PolicyDesk.Text.Percent

/-!
# Texts as bytes

* `Pending.ofLead?_two`, `ofLead?_three`, `ofLead?_four`: what the first byte of a character announces.
* `scan_char`: the bytes of a character are read as this character, whatever follows them.
* `ofBytes_utf8_append`: so a text that is sent as bytes arrives as it is, whatever follows it.
* `ofBytes_ascii`, `ofBytes_wide`: what the first byte is read into.
-/

namespace PolicyDesk.Glyph

/-! ## First bytes -/

theorem Pending.ofLead?_two {k : Nat} (low : 2 ≤ k) (high : k < 32) :
    Pending.ofLead? (192 + k) = some ⟨k, 1, 1, 0x80, 0xBF⟩ := by
  unfold Pending.ofLead?
  rw [if_pos (by omega), Nat.add_sub_cancel_left]

/-- The second of three bytes keeps out longer spellings than needed, and surrogates. -/
theorem Pending.ofLead?_three {k : Nat} (h : k < 16) :
    Pending.ofLead? (224 + k) =
      some ⟨k, 1, 2, if k = 0 then 0xA0 else 0x80, if k = 13 then 0x9F else 0xBF⟩ := by
  unfold Pending.ofLead?
  rw [if_neg (by omega)]
  by_cases zero : k = 0
  · subst zero
    rfl
  · by_cases thirteen : k = 13
    · subst thirteen
      rfl
    · rw [if_neg (by omega), if_neg (by omega), if_pos (by omega), if_neg zero, if_neg thirteen,
        Nat.add_sub_cancel_left]

/-- The second of four bytes keeps out longer spellings than needed, and numbers that are too large. -/
theorem Pending.ofLead?_four {k : Nat} (h : k < 5) :
    Pending.ofLead? (240 + k) =
      some ⟨k, 1, 3, if k = 0 then 0x90 else 0x80, if k = 4 then 0x8F else 0xBF⟩ := by
  unfold Pending.ofLead?
  rw [if_neg (by omega), if_neg (by omega), if_neg (by omega), if_neg (by omega)]
  by_cases zero : k = 0
  · subst zero
    rfl
  · by_cases four : k = 4
    · subst four
      rfl
    · rw [if_neg (by omega), if_pos (by omega), if_neg zero, if_neg four, Nat.add_sub_cancel_left]

/-! ## One byte -/

variable {read : List Glyph} {b : UInt8} {rest : List UInt8} {p : Pending}

theorem scan_ascii (h : b.toNat < 0x80) :
    scan read none (b :: rest) = scan (.char (Char.ofNat b.toNat) :: read) none rest := by
  rw [scan, if_pos h]

theorem scan_lead (high : ¬ b.toNat < 0x80) (lead : Pending.ofLead? b.toNat = some p) :
    scan read none (b :: rest) = scan read (some p) rest := by
  rw [scan, if_neg high, lead]

theorem scan_more (within : p.low ≤ b.toNat ∧ b.toNat ≤ p.high) (missing : ¬ p.missing ≤ 1) :
    scan read (some p) (b :: rest) =
      scan read (some ⟨64 * p.value + (b.toNat - 0x80), p.size + 1, p.missing - 1, 0x80, 0xBF⟩) rest := by
  rw [scan, if_pos within]
  simp only
  rw [if_neg missing]

theorem scan_last (within : p.low ≤ b.toNat ∧ b.toNat ≤ p.high) (missing : p.missing ≤ 1) :
    scan read (some p) (b :: rest) =
      scan (.char (Char.ofNat (64 * p.value + (b.toNat - 0x80))) :: read) none rest := by
  rw [scan, if_pos within]
  simp only
  rw [if_pos missing]

/-! ## One character -/

theorem toNat_ofNat_of_lt {n : Nat} (h : n < 256) : (UInt8.ofNat n).toNat = n :=
  UInt8.toNat_ofNat_of_lt' h

theorem scan_two {k j : Nat} (low : 2 ≤ k) (high : k < 32) (hj : j < 64) :
    scan read none (UInt8.ofNat (k + 192) :: UInt8.ofNat (j + 128) :: rest) =
      scan (.char (Char.ofNat (64 * k + j)) :: read) none rest := by
  have first := toNat_ofNat_of_lt (n := k + 192) (by omega)
  have second := toNat_ofNat_of_lt (n := j + 128) (by omega)
  have lead : Pending.ofLead? (UInt8.ofNat (k + 192)).toNat = some ⟨k, 1, 1, 0x80, 0xBF⟩ := by
    rw [first, Nat.add_comm]
    exact Pending.ofLead?_two low high
  rw [scan_lead (by omega) lead, scan_last (by simp only; omega) (Nat.le_refl 1), second]
  simp only [Nat.add_sub_cancel]

theorem scan_three {k j i : Nat} (hk : k < 16) (least : k = 0 → 32 ≤ j) (real : k = 13 → j < 32) (hj : j < 64)
    (hi : i < 64) :
    scan read none (UInt8.ofNat (k + 224) :: UInt8.ofNat (j + 128) :: UInt8.ofNat (i + 128) :: rest) =
      scan (.char (Char.ofNat (64 * (64 * k + j) + i)) :: read) none rest := by
  have first := toNat_ofNat_of_lt (n := k + 224) (by omega)
  have second := toNat_ofNat_of_lt (n := j + 128) (by omega)
  have third := toNat_ofNat_of_lt (n := i + 128) (by omega)
  have lead : Pending.ofLead? (UInt8.ofNat (k + 224)).toNat =
      some ⟨k, 1, 2, if k = 0 then 0xA0 else 0x80, if k = 13 then 0x9F else 0xBF⟩ := by
    rw [first, Nat.add_comm]
    exact Pending.ofLead?_three hk
  have within : (if k = 0 then 0xA0 else 0x80) ≤ (UInt8.ofNat (j + 128)).toNat ∧
      (UInt8.ofNat (j + 128)).toNat ≤ if k = 13 then 0x9F else 0xBF := by
    rw [second]
    split <;> split <;> omega
  rw [scan_lead (by omega) lead, scan_more within (by simp only; omega),
    scan_last (by simp only; omega) (by simp only; omega), second, third]
  simp only [Nat.add_sub_cancel]

theorem scan_four {k j i h : Nat} (hk : k < 5) (least : k = 0 → 16 ≤ j) (most : k = 4 → j < 16) (hj : j < 64)
    (hi : i < 64) (hh : h < 64) :
    scan read none (UInt8.ofNat (k + 240) :: UInt8.ofNat (j + 128) :: UInt8.ofNat (i + 128) ::
      UInt8.ofNat (h + 128) :: rest) =
      scan (.char (Char.ofNat (64 * (64 * (64 * k + j) + i) + h)) :: read) none rest := by
  have first := toNat_ofNat_of_lt (n := k + 240) (by omega)
  have second := toNat_ofNat_of_lt (n := j + 128) (by omega)
  have third := toNat_ofNat_of_lt (n := i + 128) (by omega)
  have fourth := toNat_ofNat_of_lt (n := h + 128) (by omega)
  have lead : Pending.ofLead? (UInt8.ofNat (k + 240)).toNat =
      some ⟨k, 1, 3, if k = 0 then 0x90 else 0x80, if k = 4 then 0x8F else 0xBF⟩ := by
    rw [first, Nat.add_comm]
    exact Pending.ofLead?_four hk
  have within : (if k = 0 then 0x90 else 0x80) ≤ (UInt8.ofNat (j + 128)).toNat ∧
      (UInt8.ofNat (j + 128)).toNat ≤ if k = 4 then 0x8F else 0xBF := by
    rw [second]
    split <;> split <;> omega
  rw [scan_lead (by omega) lead, scan_more within (by simp only; omega),
    scan_more (by simp only; omega) (by simp only; omega),
    scan_last (by simp only; omega) (by simp only; omega), second, third, fourth]
  simp only [Nat.add_sub_cancel]

/-- **The bytes of a character are read as this character**, whatever follows them. The cases are the numbers
    of bytes. -/
theorem scan_char (read : List Glyph) (c : Char) (rest : List UInt8) :
    scan read none (String.utf8EncodeChar c ++ rest) = scan (.char c :: read) none rest := by
  have back : Char.ofNat c.val.toNat = c := c.ofNat_toNat
  have valid : c.val.toNat < 0xD800 ∨ 0xDFFF < c.val.toNat ∧ c.val.toNat < 0x110000 := c.valid
  unfold String.utf8EncodeChar
  generalize c.val.toNat = v at *
  simp only
  split
  · have byte := toNat_ofNat_of_lt (n := v) (by omega)
    rw [List.singleton_append, scan_ascii (by omega), byte, back]
  · split
    · have value : 64 * (v / 64 % 32) + v % 64 = v := by omega
      rw [List.cons_append, List.singleton_append, scan_two (by omega) (by omega) (by omega), value, back]
    · split
      · have value : 64 * (64 * (v / 4096 % 16) + v / 64 % 64) + v % 64 = v := by omega
        rw [List.cons_append, List.cons_append, List.singleton_append,
          scan_three (by omega) (by omega) (by omega) (by omega) (by omega), value, back]
      · have value : 64 * (64 * (64 * (v / 262144 % 8) + v / 4096 % 64) + v / 64 % 64) + v % 64 = v := by
          omega
        rw [List.cons_append, List.cons_append, List.cons_append, List.singleton_append,
          scan_four (by omega) (by omega) (by omega) (by omega) (by omega) (by omega), value, back]

theorem scan_utf8 (read : List Glyph) (s : List Char) (rest : List UInt8) :
    scan read none (Text.utf8 s ++ rest) = scan ((s.map .char).reverse ++ read) none rest := by
  induction s generalizing read with
  | nil => rfl
  | cons c s ih =>
    have split : Text.utf8 (c :: s) ++ rest = String.utf8EncodeChar c ++ (Text.utf8 s ++ rest) := by
      rw [← List.append_assoc]
      rfl
    rw [split, scan_char, ih]
    simp

/-! ## What was read before -/

theorem scan_append (ih : ∀ read p, scan read p rest = read.reverse ++ scan [] p rest) (first read : List Glyph)
    (p : Option Pending) : scan (first ++ read) p rest = read.reverse ++ scan first p rest := by
  rw [ih, ih first, List.reverse_append, List.append_assoc]

/-- What was read before has no say in what follows. The induction is on the bytes. -/
theorem scan_eq_append (read : List Glyph) (p : Option Pending) (bytes : List UInt8) :
    scan read p bytes = read.reverse ++ scan [] p bytes := by
  induction bytes generalizing read p with
  | nil => cases p <;> simp [scan]
  | cons b rest ih =>
    cases p with
    | none =>
      unfold scan
      split
      · exact scan_append ih [_] read none
      · split
        · exact scan_append ih [] read _
        · exact scan_append ih [_] read none
    | some p =>
      unfold scan
      split
      · simp only
        split
        · exact scan_append ih [_] read none
        · exact scan_append ih [] read _
      · split
        · exact scan_append ih [_, _] read none
        · split
          · exact scan_append ih [_] read _
          · exact scan_append ih [_, _] read none

/-- **A text that is sent as bytes arrives as it is**, whatever follows it. -/
theorem ofBytes_utf8_append (s : List Char) (rest : List UInt8) :
    ofBytes (Text.utf8 s ++ rest) = s.map .char ++ ofBytes rest := by
  rw [ofBytes, scan_utf8, scan_eq_append, List.append_nil, List.reverse_reverse]
  rfl

theorem ofBytes_utf8 (s : List Char) : ofBytes (Text.utf8 s) = s.map .char := by
  have whole := ofBytes_utf8_append s []
  rwa [List.append_nil, show ofBytes [] = [] from rfl, List.append_nil] at whole

/-! ## Characters of one byte -/

/-- No character of one byte comes of what is pending. -/
structure Pending.Far (p : Pending) : Prop where
  value : 16 ≤ 64 * p.value + (p.low - 0x80)
  last : p.missing ≤ 1 → 2 ≤ p.value

theorem Pending.far_of_ofLead? {n : Nat} (h : Pending.ofLead? n = some p) : p.Far := by
  unfold Pending.ofLead? at h
  split_ifs at h with two longest surrogates three large four last
  all_goals obtain rfl := Option.some.inj h
  all_goals exact ⟨by simp only; omega, by simp only; omega⟩

/-- The glyph is no character that bytes spell with one byte, except perhaps the character of number zero. -/
def IsWide (g : Glyph) : Prop := ∀ c, g = .char c → c.toNat = 0 ∨ 0x80 ≤ c.toNat

theorem isWide_broken (n : Nat) : IsWide (.broken n) := fun _ h => by cases h

theorem isWide_ofNat {n : Nat} (h : 0x80 ≤ n) : IsWide (.char (Char.ofNat n)) := by
  rintro _ ⟨⟩
  by_cases valid : n.isValidChar
  · rw [Char.ofNat, dif_pos valid]
    exact .inr h
  · rw [Char.ofNat, dif_neg valid]
    exact .inl rfl

/-- In the middle of a character of several bytes, a wide glyph comes next. The induction is on the bytes. -/
theorem scan_pending (far : p.Far) (bytes : List UInt8) : ∃ g gs, scan [] (some p) bytes = g :: gs ∧ IsWide g := by
  induction bytes generalizing p with
  | nil => exact ⟨.broken p.size, [], rfl, isWide_broken _⟩
  | cons b rest ih =>
    by_cases within : p.low ≤ b.toNat ∧ b.toNat ≤ p.high
    · by_cases missing : p.missing ≤ 1
      · have large := far.last missing
        rw [scan_last within missing, scan_eq_append]
        exact ⟨_, _, rfl, isWide_ofNat (by omega)⟩
      · have value := far.value
        rw [scan_more within missing]
        exact ih ⟨by simp only; omega, by simp only; omega⟩
    · have broken : ∃ p' read, scan [] (some p) (b :: rest) = scan (read ++ [.broken p.size]) p' rest := by
        rw [scan, if_neg within]
        split
        · exact ⟨none, [_], rfl⟩
        · split
          · exact ⟨some _, [], rfl⟩
          · exact ⟨none, [_], rfl⟩
      obtain ⟨p', read, more⟩ := broken
      rw [more, scan_eq_append, List.reverse_append]
      exact ⟨_, _, rfl, isWide_broken _⟩

theorem ofBytes_ascii (h : b.toNat < 0x80) (rest : List UInt8) :
    ofBytes (b :: rest) = .char (Char.ofNat b.toNat) :: ofBytes rest := by
  rw [ofBytes, scan_ascii h, scan_eq_append]
  rfl

/-- A byte that is no character of its own is read into a wide glyph. -/
theorem ofBytes_wide (h : ¬ b.toNat < 0x80) (rest : List UInt8) : ∃ g gs, ofBytes (b :: rest) = g :: gs ∧ IsWide g := by
  rw [ofBytes]
  cases lead : Pending.ofLead? b.toNat with
  | none =>
    rw [scan, if_neg h, lead]
    simp only
    rw [scan_eq_append]
    exact ⟨_, _, rfl, isWide_broken 1⟩
  | some p =>
    rw [scan_lead h lead]
    exact scan_pending (Pending.far_of_ofLead? lead) rest

end PolicyDesk.Glyph
