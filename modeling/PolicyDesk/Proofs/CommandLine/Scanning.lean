import PolicyDesk.CommandLine.Reading
import PolicyDesk.CommandLine.Service
import PolicyDesk.Proofs.Results
import PolicyDesk.Proofs.Text.Pieces

/-!
# What a command line must have been

A command line that is read leaves a draft, and the draft tells what every word of it was.

* `attached`: a word that names an argument and has its value behind an equals sign.
* `scan_attached`, `scan_flag`, `scan_place`: what one word at the front has done, if all words are read.
* `read_inv`: what a command line without commands has gone through.
* `addSettings_of_no_setting`, `addSettings_cons`: what the environment gives.
-/

namespace PolicyDesk.CommandLine

/-- A word that names an argument and has its value behind an equals sign. -/
def attached (name value : String) : String := "--" ++ name ++ "=" ++ value

variable {Draft : Type} {g : Grammar Draft} {s : Scan Draft} {a : Arg Draft} {commands : List String}
  {name value word : String} {rest : List String} {r : Scan Draft × Option (String × List String)}

/-! ## Words -/

theorem ofWord_attached (plain : '=' ∉ name.toList) :
    Token.ofWord (attached name value) = .long name (some value) := by
  have chars : (attached name value).toList = '-' :: '-' :: (name.toList ++ '=' :: value.toList) := by
    simp [attached]
  obtain ⟨c, cs, some⟩ : ∃ c cs, name.toList ++ '=' :: value.toList = c :: cs := by
    cases name.toList with
    | nil => exact ⟨_, _, rfl⟩
    | cons c cs => exact ⟨c, cs ++ '=' :: value.toList, rfl⟩
  have before : ∀ c ∈ name.toList, (c == '=') = false := by
    intro c mem
    apply beq_false_of_ne
    rintro rfl
    exact plain mem
  have split := Text.splitFirst_append before (by decide : ('=' == '=') = true) value.toList
  rw [some] at chars split
  rw [Token.ofWord, chars]
  simp only [split, Option.map_some, String.ofList_toList]

/-- A word that does not start with a dash is a value or the name of a command. -/
theorem ofWord_word (h : word.toList.head? ≠ some '-') : Token.ofWord word = .word := by
  unfold Token.ofWord
  split
  · rename_i chars
    exact absurd (chars ▸ rfl) h
  · rename_i chars
    exact absurd (chars ▸ rfl) h
  · rename_i chars
    exact absurd (chars ▸ rfl) h
  · rfl

/-- No command starts with a dash, so an option is none. -/
theorem contains_attached (plain : ∀ c ∈ commands, c.toList.head? ≠ some '-') :
    commands.contains (attached name value) = false := by
  rw [← Bool.not_eq_true, List.contains_iff_mem]
  intro mem
  exact plain _ mem (by simp [attached])

/-! ## One word -/

theorem resolve_of_settled (settled : s.pending = none) : s.resolve = .ok s.draft := by
  rw [Scan.resolve, settled]

/-- A word with its value has put the value into the draft, which did not have one. -/
theorem scan_attached {negative : Bool} {put : Put Draft} (values : s.onlyValues = false)
    (other : commands.contains (attached name value) = false)
    (plain : '=' ∉ name.toList)
    (found : g.named.find? (·.long == some name) = some a) (takes : a.takes = .value negative put)
    (h : g.scan commands s (attached name value :: rest) = .ok r) :
    ∃ d d', s.resolve = .ok d ∧ a.isSet d = false ∧ put .line value d = .ok d' ∧
      g.scan commands { s with draft := d', pending := none } rest = .ok r := by
  have step : g.step commands s (attached name value) = (s.start a (some value)).map .on := by
    rw [Grammar.step, values, other, ofWord_attached plain]
    simp [found]
  rw [Grammar.scan, step] at h
  obtain ⟨next, on, h⟩ := bind_eq_ok h
  obtain ⟨after, started, rfl⟩ := map_eq_ok on
  simp only [Scan.start, takes] at started
  obtain ⟨d, resolved, ended⟩ := bind_eq_ok started
  obtain ⟨d', filled, ended⟩ := bind_eq_ok ended
  cases ended
  rw [Scan.resolve] at filled
  simp only at filled
  split at filled
  · cases filled
  · rename_i fresh
    rw [Arg.put, takes] at filled
    refine ⟨d, d', resolved, by simpa using fresh, ?_, h⟩
    cases done : put .line value d with
    | error e =>
      simp only [done] at filled
      cases filled
    | ok d'' =>
      simp only [done] at filled
      cases filled
      rfl

/-- A word that only names its argument has marked it in the draft. -/
theorem scan_flag {put : Bool → Draft → Draft} (values : s.onlyValues = false)
    (other : commands.contains word = false) (names : Token.ofWord word = .long name none)
    (found : g.named.find? (·.long == some name) = some a) (takes : a.takes = .nothing put)
    (h : g.scan commands s (word :: rest) = .ok r) :
    ∃ d, s.resolve = .ok d ∧ g.scan commands { s with draft := put true d, pending := none } rest = .ok r := by
  have step : g.step commands s word = (s.start a none).map .on := by
    rw [Grammar.step, values, other, names]
    simp [found]
  rw [Grammar.scan, step] at h
  obtain ⟨next, on, h⟩ := bind_eq_ok h
  obtain ⟨after, started, rfl⟩ := map_eq_ok on
  simp only [Scan.start, takes] at started
  obtain ⟨d, resolved, ended⟩ := bind_eq_ok started
  split at ended
  · cases ended
  · cases ended
    exact ⟨d, resolved, h⟩

/-- A value that is told by its place is put off to the next word. -/
theorem scan_place {places : List (Arg Draft)} (values : s.onlyValues = false) (settled : s.pending = none)
    (plain : word.toList.head? ≠ some '-') (place : s.places = a :: places) (h : g.scan [] s (word :: rest) = .ok r) :
    g.scan [] { s with pending := some (a, some word), places } rest = .ok r := by
  have free : s.awaiting? = none := by rw [Scan.awaiting?, settled]
  have step : g.step [] s word = .ok (.on { s with pending := some (a, some word), places }) := by
    rw [Grammar.step, values, ofWord_word plain]
    simp only [List.contains_nil, Bool.and_false, Bool.false_eq_true, if_false, Scan.take, free, Scan.fill, place,
      resolve_of_settled settled, values]
    rfl
  rw [Grammar.scan, step] at h
  exact h

/-- The name of a command, where nothing else is awaited, ends the words in front of it. -/
theorem scan_command (values : s.onlyValues = false) (settled : s.pending = none)
    (command : commands.contains word = true) :
    g.scan commands s (word :: rest) = .ok (s, some (word, rest)) := by
  have free : s.awaiting? = none := by rw [Scan.awaiting?, settled]
  have step : g.step commands s word = .ok (.command word) := by
    rw [Grammar.step, values, free, command]
    rfl
  rw [Grammar.scan, step]
  rfl

/-! ## All words, and the environment -/

/-- A command line without commands was read word by word, and then the environment was asked. -/
theorem read_inv {env : String → Option String} {blank d : Draft} {words : List String}
    (h : g.read env blank words = .ok d) :
    ∃ s command, g.scan [] (g.begin blank) words = .ok (s, command) ∧ g.settle env s = .ok d := by
  rw [Grammar.read] at h
  obtain ⟨⟨s, command⟩, scanned, h⟩ := bind_eq_ok h
  obtain ⟨d', settled, h⟩ := bind_eq_ok h
  refine ⟨s, command, scanned, ?_⟩
  simp only at h
  split at h
  · cases h
    exact settled
  · cases h

/-- What the environment has no name for, it does not give. -/
theorem addSettings_of_no_setting {env : String → Option String} {as bs : List (Arg Draft)}
    (h : ∀ a ∈ as, a.setting = none) (d : Draft) : addSettings env (as ++ bs) d = addSettings env bs d := by
  induction as with
  | nil => rfl
  | cons a as ih =>
    obtain ⟨first, others⟩ := List.forall_mem_cons.mp h
    rw [List.cons_append, addSettings, first]
    exact ih others

/-- What the environment gives for one argument in front of others. -/
theorem addSettings_cons {env : String → Option String} {as : List (Arg Draft)} {d after : Draft}
    (h : addSettings env (a :: as) d = .ok after) :
    ∃ e, addSettings env as e = .ok after ∧
      (e = d ∧ (a.setting.bind env = none ∨ a.isSet d = true) ∨
        ∃ value, a.setting.bind env = some value ∧ a.isSet d = false ∧ a.put .setting value d = .ok e) := by
  rw [addSettings] at h
  split at h
  · rename_i value given
    split at h
    · rename_i set
      exact ⟨d, h, .inl ⟨rfl, .inr set⟩⟩
    · rename_i fresh
      obtain ⟨e, filled, h⟩ := bind_eq_ok h
      exact ⟨e, h, .inr ⟨value, given, by simpa using fresh, filled⟩⟩
  · rename_i missing
    exact ⟨d, h, .inl ⟨rfl, .inl missing⟩⟩

end PolicyDesk.CommandLine
