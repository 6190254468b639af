import PolicyDesk.Proofs.Calendar.Written

/-!
# The spellings of a date

A date travels alone, with a time of day, or with a time of day and an offset from Greenwich.

* `Clock`, `Zone`, `Date.Spelling`: a time of day, an offset, and what may stand behind the date.
* `fixed?_zeroPadded`, `fraction?_text`, `offset?_text`: each part of a timestamp is read, and what follows it
  is left.
* `ofChars?_spelled`: each spelling is read as the date in it, which no offset moves to another day.
* `read_spelled`: so it is with blanks around it.
-/

namespace PolicyDesk

open Text (isDigit isBlank digitChar isDigit_digitChar zeroPadded zeroPadded_isDigit zeroPadded_length
  value_zeroPadded isBlank_of_isDigit Stops stops_mark stops_nil spanDigits_append)

/-- A time of day. A minute may have a 61st second; without digits there is no decimal fraction. -/
structure Clock where
  hour : Fin 24
  minute : Fin 60
  second : Fin 61
  fraction : List (Fin 10)
  deriving DecidableEq, Repr

namespace Clock

/-- A decimal fraction behind its point, unless it has no digits. -/
def fractionText (ds : List (Fin 10)) : List Char :=
  if ds.isEmpty then [] else '.' :: ds.map fun d => digitChar d.val

/-- The time as `hh:mm:ss`, with its fraction. -/
def text (t : Clock) : List Char :=
  zeroPadded 2 t.hour ++ ':' :: (zeroPadded 2 t.minute ++ ':' :: (zeroPadded 2 t.second ++
    fractionText t.fraction))

/-- The thousandths that a decimal fraction begins with. -/
def thousandths : List (Fin 10) → Nat
  | [] => 0
  | [a] => 100 * a
  | [a, b] => 100 * a + 10 * b
  | a :: b :: c :: _ => 100 * a + 10 * b + c

/-- Milliseconds since midnight. -/
def millis (t : Clock) : Nat :=
  ((t.hour * 60 + t.minute) * 60 + t.second) * 1000 + thousandths t.fraction

theorem thousandths_lt (ds : List (Fin 10)) : thousandths ds < 1000 := by
  unfold thousandths
  split <;> omega

/-- A day is over when its milliseconds are, unless its last minute is a second longer. -/
theorem millis_lt {t : Clock} (h : t.second.val < 60) : t.millis < 86400000 := by
  have := thousandths_lt t.fraction
  unfold millis
  omega

end Clock

/-- An offset from Greenwich of less than a day. -/
inductive Zone where
  | greenwich
  | offset (east : Bool) (hours : Fin 24) (minutes : Fin 60)
  deriving DecidableEq, Repr

/-- `Z`, or a sign, hours and minutes. -/
def Zone.text : Zone → List Char
  | greenwich => ['Z']
  | offset east hours minutes =>
    (if east then '+' else '-') :: (zeroPadded 2 hours ++ ':' :: zeroPadded 2 minutes)

namespace Date

/-- What may stand behind a date. -/
inductive Spelling where
  | day
  /-- A time of day without an offset. -/
  | localTime (t : Clock)
  /-- A time of day with an offset. -/
  | instant (t : Clock) (z : Zone)
  deriving DecidableEq, Repr

/-- The text behind a date. -/
def Spelling.text : Spelling → List Char
  | day => []
  | localTime t => 'T' :: t.text
  | instant t z => 'T' :: (t.text ++ z.text)

variable {s : List Char}

/-! ## The parts of a timestamp -/

/-- A number with all its zeros is read at its width, whatever follows it. -/
theorem fixed?_zeroPadded {width n : Nat} (pos : 0 < width) (h : n < 10 ^ width) (s : List Char) :
    fixed? width (zeroPadded width n ++ s) = some (n, s) := by
  have length := zeroPadded_length pos h
  have taken : ((zeroPadded width n ++ s).take width).takeWhile isDigit = zeroPadded width n := by
    rw [List.take_left' length, List.takeWhile_eq_self_iff]
    exact zeroPadded_isDigit width n
  unfold fixed?
  rw [taken]
  simp only
  rw [if_pos length, List.drop_left' length, value_zeroPadded]

/-- A fraction is read up to its last digit. -/
theorem fraction?_text (ds : List (Fin 10)) (stops : Stops s) (noPoint : ∀ rest, s ≠ '.' :: rest) :
    fraction? (Clock.fractionText ds ++ s) = some s := by
  cases ds with
  | nil =>
    change fraction? s = some s
    unfold fraction?
    split
    · rename_i rest
      exact absurd rfl (noPoint rest)
    · rfl
  | cons d ds =>
    have digits : ∀ c ∈ (d :: ds).map fun d : Fin 10 => digitChar d.val, isDigit c = true := by
      intro c hc
      obtain ⟨k, -, rfl⟩ := List.mem_map.mp hc
      exact isDigit_digitChar k.isLt
    have spanned := spanDigits_append digits stops
    change fraction? ('.' :: ((d :: ds).map (fun d : Fin 10 => digitChar d.val) ++ s)) = some s
    rw [fraction?, spanned]
    rfl

theorem offset?_text (z : Zone) (s : List Char) : offset? (z.text ++ s) = some s := by
  cases z with
  | greenwich => rfl
  | offset east hours minutes =>
    have read : ∀ sign : Char, sign = '+' ∨ sign = '-' →
        offset? (sign :: (zeroPadded 2 hours ++ ':' :: (zeroPadded 2 minutes ++ s))) = some s := by
      intro sign known
      have hours' := fixed?_zeroPadded (by decide) (show hours.val < 10 ^ 2 by omega)
        (':' :: (zeroPadded 2 minutes ++ s))
      have minutes' := fixed?_zeroPadded (by decide) (show minutes.val < 10 ^ 2 by omega) s
      have hoursFit : hours.val ≤ 23 := by omega
      have minutesFit : minutes.val ≤ 59 := by omega
      obtain rfl | rfl := known
      all_goals simp [offset?, offsetSign?, Option.filter_some, hours', minutes', hoursFit, minutesFit, mark?]
    have signed := read (if east then '+' else '-') (by cases east <;> simp)
    simpa [Zone.text] using signed

/-- The text of an offset is no part of a fraction. -/
theorem Zone.text_stops (z : Zone) : Stops z.text ∧ ∀ rest, z.text ≠ '.' :: rest := by
  cases z with
  | greenwich => exact ⟨stops_mark (by decide) _, fun _ h => by cases h⟩
  | offset east hours minutes =>
    cases east
    · exact ⟨stops_mark (by decide) _, fun _ h => by cases h⟩
    · exact ⟨stops_mark (by decide) _, fun _ h => by cases h⟩

theorem fractionText_stops (ds : List (Fin 10)) (hs : Stops s) : Stops (Clock.fractionText ds ++ s) := by
  cases ds with
  | nil => exact hs
  | cons d ds => exact stops_mark (by decide) _

/-! ## The three ways of writing a date -/

theorem yearText_natCast {y : Nat} (h : y ≤ 9999) : yearText (y : Int) = zeroPadded 4 y := if_pos h

/-- A date with a time behind it is no date alone. -/
theorem day?_timed (d : Date) {c : Char} (mark : isDigit c = false) (s : List Char) :
    day? (d.text ++ c :: s) = none := by
  rw [day?, d.dayPrefix?_text (stops_mark mark s)]
  rfl

/-- A time of day without an offset is read. -/
theorem localTime?_text (d : Date) (t : Clock) : localTime? (d.text ++ 'T' :: t.text) = some d := by
  have day := d.dayPrefix?_text (stops_mark (c := 'T') (by decide) t.text)
  have fraction := fraction?_text t.fraction stops_nil (fun _ h => by cases h)
  have stops := fractionText_stops t.fraction stops_nil
  rw [List.append_nil] at fraction stops
  have hour := field?_zeroPadded (show t.hour.val ≤ 23 by omega) (by omega)
    (stops_mark (c := ':') (by decide) (zeroPadded 2 t.minute ++ ':' :: (zeroPadded 2 t.second ++
      Clock.fractionText t.fraction)))
  have minute := field?_zeroPadded (show t.minute.val ≤ 59 by omega) (by omega)
    (stops_mark (c := ':') (by decide) (zeroPadded 2 t.second ++ Clock.fractionText t.fraction))
  have second := field?_zeroPadded (show t.second.val ≤ 60 by omega) (by omega) stops
  rw [Clock.text] at day ⊢
  simp [localTime?, day, mark?, hour, minute, second, fraction, atEnd?]

/-- What a timestamp says up to its fraction. The rest has to be an offset. -/
theorem instant?_text (d : Date) (low : 0 ≤ d.year) (high : d.year ≤ 9999) (t : Clock) (stops : Stops s)
    (noPoint : ∀ rest, s ≠ '.' :: rest) :
    instant? (d.text ++ 'T' :: (t.text ++ s)) = (offset? s).bind fun rest => atEnd? (d, rest) := by
  obtain ⟨-, month, -, day⟩ := d.real_bounds
  obtain ⟨y, year⟩ := Int.eq_ofNat_of_zero_le low
  have short : y ≤ 9999 := by omega
  have four := fixed?_zeroPadded (by decide) (show y < 10 ^ 4 by omega)
  have two : ∀ {n : Nat}, n < 100 → ∀ s, fixed? 2 (zeroPadded 2 n ++ s) = some (n, s) :=
    fun h => fixed?_zeroPadded (by decide) h
  have hour : t.hour.val ≤ 23 := by omega
  have minute : t.minute.val ≤ 59 := by omega
  have second : t.second.val ≤ 60 := by omega
  have fraction := fraction?_text t.fraction stops noPoint
  have parts : ofParts? (y : Int) d.month d.day = some d := by
    rw [← year, ofParts?, dif_pos d.real]
  simp only [Date.text, year, yearText_natCast short, Clock.text, List.append_assoc, List.cons_append]
  simp [instant?, four, two (show d.month < 100 by omega), two (show d.day < 100 by omega),
    two (show t.hour.val < 100 by omega), two (show t.minute.val < 100 by omega),
    two (show t.second.val < 100 by omega), hour, minute, second, mark?, divider?,
    Option.filter_some, fraction, parts]

/-- **Every spelling of a date is read as the date in it**; an offset never moves it to another day. -/
theorem ofChars?_spelled (d : Date) (low : 0 ≤ d.year) (high : d.year ≤ 9999) (spelling : Spelling) :
    ofChars? (d.text ++ spelling.text) = some d := by
  cases spelling with
  | day => simp [Spelling.text, ofChars?, day?_text]
  | localTime t =>
    have noInstant : instant? (d.text ++ 'T' :: t.text) = none := by
      have read := d.instant?_text low high t stops_nil (fun _ h => by cases h)
      rwa [List.append_nil] at read
    rw [Spelling.text, ofChars?, d.day?_timed (by decide), noInstant, d.localTime?_text]
    rfl
  | instant t z =>
    obtain ⟨stops, noPoint⟩ := Zone.text_stops z
    have offset := offset?_text z []
    rw [List.append_nil] at offset
    rw [Spelling.text, ofChars?, d.day?_timed (by decide), d.instant?_text low high t stops noPoint, offset]
    rfl

/-! ## With blanks around it -/

theorem zeroPadded_not_blank (width n : Nat) : ∀ c ∈ zeroPadded width n, isBlank c = false :=
  fun c hc => isBlank_of_isDigit (zeroPadded_isDigit width n c hc)

theorem Clock.text_not_blank (t : Clock) : ∀ c ∈ t.text, isBlank c = false := by
  have fraction : ∀ c ∈ Clock.fractionText t.fraction, isBlank c = false := by
    intro c hc
    unfold Clock.fractionText at hc
    split at hc
    · cases hc
    · obtain rfl | hc := List.mem_cons.mp hc
      · rfl
      · obtain ⟨k, -, rfl⟩ := List.mem_map.mp hc
        exact isBlank_of_isDigit (isDigit_digitChar k.isLt)
  intro c hc
  simp only [Clock.text, List.mem_append, List.mem_cons] at hc
  obtain hc | rfl | hc | rfl | hc | hc := hc
  · exact zeroPadded_not_blank 2 _ c hc
  · rfl
  · exact zeroPadded_not_blank 2 _ c hc
  · rfl
  · exact zeroPadded_not_blank 2 _ c hc
  · exact fraction c hc

theorem Zone.text_not_blank (z : Zone) : ∀ c ∈ z.text, isBlank c = false := by
  cases z with
  | greenwich => exact List.forall_mem_singleton.mpr rfl
  | offset east hours minutes =>
    intro c hc
    simp only [Zone.text, List.mem_append, List.mem_cons] at hc
    obtain rfl | hc | rfl | hc := hc
    · cases east <;> rfl
    · exact zeroPadded_not_blank 2 _ c hc
    · rfl
    · exact zeroPadded_not_blank 2 _ c hc

theorem Spelling.text_not_blank (spelling : Spelling) : ∀ c ∈ spelling.text, isBlank c = false := by
  cases spelling with
  | day => exact fun c hc => by cases hc
  | localTime t => exact List.forall_mem_cons.mpr ⟨rfl, Clock.text_not_blank t⟩
  | instant t z =>
    exact List.forall_mem_cons.mpr
      ⟨rfl, List.forall_mem_append.mpr ⟨Clock.text_not_blank t, Zone.text_not_blank z⟩⟩

/-- **So it is with blanks around it.** -/
theorem read_spelled (d : Date) (low : 0 ≤ d.year) (high : d.year ≤ 9999) (spelling : Spelling)
    {before after : List Char} (hb : ∀ c ∈ before, isBlank c = true) (ha : ∀ c ∈ after, isBlank c = true) :
    read (String.ofList (before ++ (d.text ++ spelling.text) ++ after)) = .ok d := by
  have trimmed := Text.strip_around hb ha
    (List.forall_mem_append.mpr ⟨d.isBlank_text, spelling.text_not_blank⟩)
  simp only [read, String.toList_ofList, trimmed, d.ofChars?_spelled low high]

end Date

end PolicyDesk
