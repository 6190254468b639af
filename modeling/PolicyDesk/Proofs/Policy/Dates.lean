import PolicyDesk.Proofs.Calendar.Days
import PolicyDesk.Proofs.Calendar.Spellings
import PolicyDesk.Proofs.Json.Written
import PolicyDesk.Proofs.Policy.Grammar

/-!
# Dates of a policy, as texts and as numbers

A service may send a date as a text or as the milliseconds since 1970-01-01 at Greenwich.

* `Json.integerFigure`: an integer in writing.
* `Date.ofMillis?_eq_some_iff`, `Date.ofMillis?_eq_none_iff`: the date is counted in whole days, rounded down.
* `Policy.readMillis`: reads a date that is sent as a number of milliseconds.
* `readMillis_eq_ok_iff`, `readMillis_eq_error_iff`: which date that is, and when there is none.
* `spellings_of_a_date_agree`: all ways to send a date agree.
-/

namespace PolicyDesk

open Json (Content EndsNumber Figure Gap Numeral Value)
open Text (isBlank)

/-! ## Integers in writing -/

namespace Json

/-- The parts of an integer. -/
def integerNumeral (i : Int) : Numeral := { naturalNumeral i.natAbs with negative := decide (i < 0) }

theorem integerNumeral_wellFormed (i : Int) : (integerNumeral i).WellFormed :=
  { naturalNumeral_wellFormed i.natAbs with }

/-- An integer in writing. -/
def integerFigure (i : Int) : Figure := ⟨integerNumeral i, integerNumeral_wellFormed i, false, true⟩

theorem text_integerFigure (i : Int) : (Value.number (integerFigure i)).text = Text.integer i := by
  have text : (integerFigure i).text =
      (if decide (i < 0) then ['-'] else []) ++ (Value.number (naturalFigure i.natAbs)).text := rfl
  rw [Value.text, text, text_naturalFigure]
  cases i with
  | ofNat n => rfl
  | negSucc n =>
    rw [if_pos (by simp)]
    rfl

theorem integer?_integerFigure (i : Int) : (integerFigure i).numeral.integer? = some i := by
  have value : Text.value (integerFigure i).numeral.whole = i.natAbs := Text.value_natural i.natAbs
  have integer : (integerFigure i).numeral.isInteger = true := rfl
  have negative : (integerFigure i).numeral.negative = decide (i < 0) := rfl
  rw [Numeral.integer?, value, if_pos integer, negative]
  by_cases below : i < 0
  · rw [if_pos (by simpa using below), if_neg (by omega)]
    exact congrArg some (by omega)
  · rw [if_neg (by simpa using below)]
    exact congrArg some (by omega)

end Json

/-! ## Milliseconds -/

namespace Date

/-- The date at an instant is as many days after 1970-01-01 as whole days have passed. -/
theorem ofMillis?_eq_some_iff {ms : Int} {d : Date} : ofMillis? ms = some d ↔ DaysAfter (ms / dayMillis) d :=
  ofDayNumber?_eq_some_iff

/-- There is no date only if the calendar does not reach so far. -/
theorem ofMillis?_eq_none_iff {ms : Int} :
    ofMillis? ms = none ↔ ms / dayMillis < first.dayNumber ∨ last.dayNumber < ms / dayMillis := by
  have found := ofDayNumber?_isSome_iff (n := ms / dayMillis)
  rw [ofMillis?, ← Option.not_isSome_iff_eq_none, found]
  omega

end Date

namespace Policy

/-- Reads a date that is sent as a number of milliseconds. -/
def readMillis (room : Nat) (gap : Gap) (ms : Int64) (s : List Glyph) : Except Json.Fault (Date × List Glyph) :=
  readDate room (gap.chars.map .char ++ ((Text.integer ms.toInt).map .char ++ s))

variable {room : Nat} {gap : Gap} {ms : Int64} {s : List Glyph}

/-- **What a date makes of a number of milliseconds** in 64 bits. -/
theorem readMillis_toOption (hs : EndsNumber s) :
    (readMillis room gap ms s).toOption = (Date.ofMillis? ms.toInt).map fun day => (day, s) := by
  have low : -0x8000000000000000 ≤ ms.toInt := Int64.le_toInt ms
  have high : ms.toInt < 0x8000000000000000 := Int64.toInt_lt ms
  have read := readDate_value room (.number (Json.integerFigure ms.toInt)) gap hs
  have date : (Value.number (Json.integerFigure ms.toInt)).content.date? = Date.ofMillis? ms.toInt := by
    simp only [Value.content, Content.date?]
    rw [Json.integer?_integerFigure, Option.bind_some, if_pos ⟨low, high⟩]
  rwa [Json.text_integerFigure, date] at read

theorem readMillis_eq_ok_iff (hs : EndsNumber s) {d : Date} {r : List Glyph} :
    readMillis room gap ms s = .ok (d, r) ↔ r = s ∧ Date.DaysAfter (ms.toInt / Date.dayMillis) d := by
  rw [← Json.toOption_eq_some_iff, readMillis_toOption hs, Option.map_eq_some_iff, ← Date.ofMillis?_eq_some_iff]
  constructor
  · rintro ⟨day, found, same⟩
    cases same
    exact ⟨rfl, found⟩
  · rintro ⟨rfl, found⟩
    exact ⟨d, found, rfl⟩

theorem readMillis_eq_error_iff (hs : EndsNumber s) :
    (∃ fault, readMillis room gap ms s = .error fault) ↔
      ms.toInt / Date.dayMillis < Date.first.dayNumber ∨ Date.last.dayNumber < ms.toInt / Date.dayMillis := by
  have option : (readMillis room gap ms s).toOption = _ := readMillis_toOption hs
  rw [← Date.ofMillis?_eq_none_iff]
  cases read : readMillis room gap ms s with
  | ok a =>
    rw [read, Json.toOption_ok] at option
    cases found : Date.ofMillis? ms.toInt with
    | none =>
      rw [found] at option
      cases option
    | some d => simp
  | error fault =>
    rw [read, Json.toOption_error] at option
    cases found : Date.ofMillis? ms.toInt with
    | none => simp
    | some d =>
      rw [found] at option
      cases option

/-- **All ways to send a date agree.** A date from the year 0 to 9999 is read back from its text, alone, with a
    time of day, or with a time of day and an offset, and with any blanks around it: the offset never moves it to
    another day. A number of milliseconds in 64 bits is read as the date that is as many days after 1970-01-01 as
    the number has whole days, rounded down, and as an error exactly if the calendar does not reach so far. So the
    milliseconds of any time of a day are read as its timestamp at Greenwich is. -/
theorem spellings_of_a_date_agree :
    (∀ (d : Date) (spelling : Date.Spelling) (before after : List Char), 0 ≤ d.year → d.year ≤ 9999 →
      (∀ c ∈ before, isBlank c = true) → (∀ c ∈ after, isBlank c = true) →
      Date.read (String.ofList (before ++ (d.text ++ spelling.text) ++ after)) = .ok d) ∧
    ∀ (room : Nat) (gap : Gap) (s : List Glyph), EndsNumber s →
      (∀ ms : Int64,
        (∀ d r, readMillis room gap ms s = .ok (d, r) ↔
          r = s ∧ Date.DaysAfter (ms.toInt / Date.dayMillis) d) ∧
        ((∃ fault, readMillis room gap ms s = .error fault) ↔
          ms.toInt / Date.dayMillis < Date.first.dayNumber ∨
            Date.last.dayNumber < ms.toInt / Date.dayMillis)) ∧
      ∀ (d : Date) (n : Int) (t : Clock) (ms : Int64), 0 ≤ d.year → d.year ≤ 9999 → t.second.val < 60 →
        Date.DaysAfter n d → ms.toInt = n * Date.dayMillis + t.millis →
        readMillis room gap ms s = .ok (d, s) ∧
          Date.read (String.ofList (d.text ++ (Date.Spelling.instant t .greenwich).text)) = .ok d := by
  refine ⟨fun d spelling before after low high hb ha => d.read_spelled low high spelling hb ha, ?_⟩
  intro room gap s hs
  refine ⟨fun ms => ⟨fun d r => readMillis_eq_ok_iff hs, readMillis_eq_error_iff hs⟩, ?_⟩
  intro d n t ms low high minute after sum
  have inDay := Clock.millis_lt minute
  have days : ms.toInt / Date.dayMillis = n := by
    unfold Date.dayMillis at *
    omega
  refine ⟨(readMillis_eq_ok_iff hs).mpr ⟨rfl, by rwa [days]⟩, ?_⟩
  have none : ∀ c ∈ [], isBlank c = true := fun _ h => by cases h
  have read := d.read_spelled low high (.instant t .greenwich) none none
  rwa [List.nil_append, List.append_nil] at read

/-- The 29th of February 2024. -/
def leapDay : Date := ⟨2024, 2, 29, by decide⟩

/-- The last thousandth of a day. -/
def lastInstant : Clock := ⟨23, 59, 59, [9, 9, 9]⟩

theorem spellings_of_a_leap_day_agree :
    Date.read (String.ofList ([' '] ++ (leapDay.text ++
      (Date.Spelling.instant lastInstant (.offset false 23 59)).text) ++ ['\n'])) = .ok leapDay ∧
    readMillis 0 Gap.none (-1) [] = .ok (⟨1969, 12, 31, by decide⟩, []) ∧
    readMillis 0 Gap.none 1709251199999 [] = .ok (leapDay, []) ∧
      Date.read (String.ofList (leapDay.text ++ (Date.Spelling.instant lastInstant .greenwich).text)) =
        .ok leapDay := by
  have numbers := spellings_of_a_date_agree.2 0 Gap.none [] Json.endsNumber_nil
  refine ⟨?offset, ?before, ?last⟩
  case offset =>
    exact spellings_of_a_date_agree.1 leapDay _ _ _ (by decide) (by decide) (List.forall_mem_singleton.mpr rfl)
      (List.forall_mem_singleton.mpr rfl)
  case before =>
    exact ((numbers.1 (-1)).1 _ _).mpr ⟨rfl, Date.ofDayNumber?_eq_some_iff.mp (by decide)⟩
  case last =>
    exact numbers.2 leapDay 19782 lastInstant 1709251199999 (by decide) (by decide) (by decide)
      (Date.ofDayNumber?_eq_some_iff.mp (by decide)) (by decide)

end Policy

end PolicyDesk
