import PolicyDesk.Calendar.Reading
import PolicyDesk.Proofs.Text.Blank
import PolicyDesk.Proofs.Text.Digits

/-!
# Dates are read as they are written

* `number?_append`: digits are read as their number, and what follows them is left.
* `year?_yearText`: a year is read with its sign and all its digits.
* `Date.dayPrefix?_text`, `Date.day?_text`, `Date.read_text`: so every date of the calendar is read back.
-/

namespace PolicyDesk

open Text (isDigit isBlank value zeroPadded zeroPadded_isDigit zeroPadded_length value_zeroPadded
  isBlank_of_isDigit stripStart_of_not_blank Stops stops_mark stops_nil takeWhile_isDigit_append)

namespace Date

variable {ds s : List Char}

/-! ## Numbers in a date -/

/-- Digits are read as their number. They end where the number may have no more of them, or where something
    else follows. -/
theorem number?_append {width : Nat} (hd : ∀ c ∈ ds, isDigit c = true) (some : ds ≠ [])
    (fits : ds.length ≤ width) (hs : Stops s) :
    number? width (ds ++ s) = .some (value ds, s) := by
  have taken : ((ds ++ s).take width).takeWhile isDigit = ds := by
    rw [List.take_append, List.take_of_length_le fits]
    refine takeWhile_isDigit_append hd ?_
    intro c hc
    cases h : width - ds.length with
    | zero =>
      rw [h] at hc
      cases hc
    | succ n =>
      refine hs c ?_
      rw [h, List.head?_take, if_neg (Nat.succ_ne_zero n)] at hc
      exact hc
  unfold number?
  simp only [taken]
  rw [if_neg (by simpa using some), List.drop_left]

/-- A number with zeros in front starts with a digit. -/
theorem zeroPadded_cons (width n : Nat) : ∃ c t, zeroPadded width n = c :: t ∧ isDigit c = true := by
  cases h : zeroPadded width n with
  | nil =>
    have some := Text.zeroPadded_length_pos width n
    rw [h] at some
    cases some
  | cons c t => exact ⟨c, t, rfl, zeroPadded_isDigit width n c (by simp [h])⟩

theorem stripStart_zeroPadded (width n : Nat) (s : List Char) :
    Text.stripStart (zeroPadded width n ++ s) = zeroPadded width n ++ s := by
  obtain ⟨c, t, text, digit⟩ := zeroPadded_cons width n
  rw [text]
  exact stripStart_of_not_blank (isBlank_of_isDigit digit) _

theorem number?_zeroPadded {width pad n : Nat} (fits : (zeroPadded pad n).length ≤ width) (hs : Stops s) :
    number? width (zeroPadded pad n ++ s) = some (n, s) := by
  have some := List.length_pos_iff.mp (Text.zeroPadded_length_pos pad n)
  have read := number?_append (zeroPadded_isDigit pad n) some fits hs
  rwa [value_zeroPadded] at read

/-- A number of two digits that is not too large is read. -/
theorem field?_zeroPadded {most n : Nat} (low : n ≤ most) (high : n < 100) (hs : Stops s) :
    field? most (zeroPadded 2 n ++ s) = some (n, s) := by
  have length : (zeroPadded 2 n).length = 2 := zeroPadded_length (by decide) high
  have read : number? 2 (zeroPadded 2 n ++ s) = some (n, s) := number?_zeroPadded (by omega) hs
  rw [field?, stripStart_zeroPadded, read]
  simp [low]

/-! ## Years -/

theorem year?_signed {sign : Char} {n : Nat} (hs : Stops s)
    (h : sign = '+' ∨ sign = '-') :
    year? (sign :: (zeroPadded 4 n ++ s)) =
      some (if sign = '-' then -(n : Int) else (n : Int), s) := by
  have read : number? (zeroPadded 4 n ++ s).length (zeroPadded 4 n ++ s) = some (n, s) :=
    number?_zeroPadded (by simp) hs
  obtain rfl | rfl := h
  · rw [year?, stripStart_of_not_blank (by decide)]
    simp only [read]
    rfl
  · rw [year?, stripStart_of_not_blank (by decide)]
    simp only [read]
    rfl

/-- **A year is read as it is written**, with its sign and all its digits. -/
theorem year?_yearText (y : Int) (hs : Stops s) : year? (yearText y ++ s) = some (y, s) := by
  cases y with
  | ofNat n =>
    rw [yearText]
    split
    · rename_i few
      have length : (zeroPadded 4 n).length = 4 := zeroPadded_length (by decide) (by omega)
      have read : number? 4 (zeroPadded 4 n ++ s) = some (n, s) := number?_zeroPadded (by omega) hs
      obtain ⟨c, t, text, digit⟩ := zeroPadded_cons 4 n
      rw [year?, stripStart_zeroPadded]
      rw [text, List.cons_append] at read ⊢
      -- a digit is no sign
      split
      · rename_i heq
        cases heq
        cases digit
      · rename_i heq
        cases heq
        cases digit
      · rw [read]
        rfl
    · exact year?_signed hs (.inl rfl)
  | negSucc n => exact year?_signed hs (.inr rfl)

/-! ## Dates -/

theorem real_bounds (d : Date) : 1 ≤ d.month ∧ d.month ≤ 12 ∧ 1 ≤ d.day ∧ d.day ≤ 31 := by
  have real := d.real
  simp only [exists?, Bool.and_eq_true, decide_eq_true_eq] at real
  have long : monthLength (isLeap d.year) d.month ≤ 31 := by
    unfold monthLength
    split
    · split <;> decide
    all_goals decide
  omega

/-- A date is read as it is written, and what follows it is left. -/
theorem dayPrefix?_text (d : Date) (hs : Stops s) : dayPrefix? (d.text ++ s) = some (d, s) := by
  obtain ⟨-, month, -, day⟩ := d.real_bounds
  have hyear := year?_yearText d.year
    (s := '-' :: (zeroPadded 2 d.month ++ ('-' :: (zeroPadded 2 d.day ++ s)))) (stops_mark (by decide) _)
  have hmonth : field? 12 (zeroPadded 2 d.month ++ ('-' :: (zeroPadded 2 d.day ++ s))) =
      some (d.month, '-' :: (zeroPadded 2 d.day ++ s)) :=
    field?_zeroPadded month (by omega) (stops_mark (by decide) _)
  have hday : field? 31 (zeroPadded 2 d.day ++ s) = some (d.day, s) := field?_zeroPadded day (by omega) hs
  have parts : ofParts? d.year d.month d.day = some d := by
    rw [ofParts?, dif_pos d.real]
  have text : d.text ++ s =
      yearText d.year ++ '-' :: (zeroPadded 2 d.month ++ ('-' :: (zeroPadded 2 d.day ++ s))) := by
    simp [Date.text]
  rw [dayPrefix?, text, hyear]
  simp [mark?, hmonth, hday, parts]

/-- **Every date is read as it is written.** -/
theorem day?_text (d : Date) : day? d.text = some d := by
  have read := d.dayPrefix?_text stops_nil
  rw [List.append_nil] at read
  rw [day?, read]
  rfl

theorem isBlank_text (d : Date) : ∀ c ∈ d.text, isBlank c = false := by
  have digits : ∀ width n, ∀ c ∈ zeroPadded width n, isBlank c = false := fun width n c hc =>
    isBlank_of_isDigit (zeroPadded_isDigit width n c hc)
  have year : ∀ c ∈ yearText d.year, isBlank c = false := by
    intro c hc
    unfold yearText at hc
    split at hc
    · split at hc
      · exact digits 4 _ c hc
      · obtain rfl | hc := List.mem_cons.mp hc
        · rfl
        · exact digits 4 _ c hc
    · obtain rfl | hc := List.mem_cons.mp hc
      · rfl
      · exact digits 4 _ c hc
  intro c hc
  simp only [Date.text, List.append_assoc, List.cons_append, List.mem_append, List.mem_cons] at hc
  obtain hc | rfl | hc | rfl | hc := hc
  · exact year c hc
  · rfl
  · exact digits 2 _ c hc
  · rfl
  · exact digits 2 _ c hc

/-- **Every date of the calendar is read back** from its text. -/
theorem read_text (d : Date) : read d.toText = .ok d := by
  have trimmed : Text.strip d.toText.toList = d.text := by
    rw [toText, String.toList_ofList, Text.strip_eq_self d.isBlank_text]
  simp only [read, trimmed, ofChars?, day?_text, Option.some_or]

end Date

end PolicyDesk
