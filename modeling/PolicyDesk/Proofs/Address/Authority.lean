import PolicyDesk.Address.Reading
import PolicyDesk.Proofs.Address.Host
import PolicyDesk.Proofs.Text.Pieces

/-!
# User, host and port are taken apart as they were put together

* `splitUser_append`: the user ends at the last at sign.
* `splitHost_text`: no colon of a host counts as that of a port.
* `readPort_natural`, `readPort_bounds`: a port is read back, and the default port is none.
* `readPlace_eq_ok`: what is known of host and port.
-/

namespace PolicyDesk.Address

open Host (IsSign)
open Text (isDigit natural natural_isDigit natural_ne_nil)

variable {s p : List Char}

/-! ## Users -/

theorem splitUser_of_none (h : ∀ c ∈ s, c ≠ '@') : splitUser s = ([], s) := by
  have all : ∀ c ∈ s.reverse, (c != '@') = true := fun c hc => bne_iff_ne.mpr (h c (List.mem_reverse.mp hc))
  rw [splitUser, List.takeWhile_eq_self_iff.mpr all, List.dropWhile_eq_nil_iff.mpr all, List.reverse_reverse]
  rfl

/-- The user ends at the last at sign. -/
theorem splitUser_append (h : ∀ c ∈ s, c ≠ '@') (before : List Char) :
    splitUser (before ++ '@' :: s) = (before, s) := by
  have all : ∀ c ∈ s.reverse, (c != '@') = true := fun c hc => bne_iff_ne.mpr (h c (List.mem_reverse.mp hc))
  have backwards : (before ++ '@' :: s).reverse = s.reverse ++ '@' :: before.reverse := by simp
  rw [splitUser, backwards, List.takeWhile_append_of_pos all, List.dropWhile_append_of_pos all]
  simp

/-! ## Hosts -/

theorem splitHost_cons (inside : Bool) (c : Char) (s : List Char) :
    splitHost inside (c :: s) =
      if c == ':' && !inside then ([], some s)
      else
        let inside := if c == '[' then true else if c == ']' then false else inside
        (c :: (splitHost inside s).1, (splitHost inside s).2) := rfl

/-- Outside brackets what is neither a colon nor a bracket belongs to the host. -/
theorem splitHost_piece (h : ∀ c ∈ p, c ≠ ':' ∧ c ≠ '[' ∧ c ≠ ']') (s : List Char) :
    splitHost false (p ++ s) = (p ++ (splitHost false s).1, (splitHost false s).2) := by
  induction p with
  | nil => rfl
  | cons c p ih =>
    obtain ⟨⟨colon, openBracket, closeBracket⟩, others⟩ := List.forall_mem_cons.mp h
    rw [List.cons_append, splitHost_cons, if_neg (by simp [colon])]
    simp [openBracket, closeBracket, ih others]

/-- Inside brackets everything belongs to the host. -/
theorem splitHost_bracket (h : ∀ c ∈ p, c ≠ ']') (s : List Char) :
    splitHost true (p ++ ']' :: s) = (p ++ ']' :: (splitHost false s).1, (splitHost false s).2) := by
  induction p with
  | nil => rfl
  | cons c p ih =>
    obtain ⟨closeBracket, others⟩ := List.forall_mem_cons.mp h
    rw [List.cons_append, splitHost_cons, if_neg (by simp)]
    simp [closeBracket, ih others]

theorem not_mark_of_isSign {c : Char} (h : IsSign c) : c ≠ ':' ∧ c ≠ '[' ∧ c ≠ ']' :=
  ⟨h.ne_of_isForbidden (by decide), h.ne_of_isForbidden (by decide), h.ne_of_isForbidden (by decide)⟩

/-- **A host is split off as a whole**, the colons of a number of eight groups included. -/
theorem splitHost_text [InternationalNames] {h : Host} (normal : h.Normal) (s : List Char) :
    splitHost false (h.text ++ s) = (h.text ++ (splitHost false s).1, (splitHost false s).2) := by
  cases h with
  | name labels => exact splitHost_piece (fun c hc => not_mark_of_isSign (normal.2.1 c hc)) s
  | v4 n => exact splitHost_piece (fun c hc => not_mark_of_isSign (Host.v4Text_isSign n c hc)) s
  | v6 n =>
    have inside : ∀ c ∈ Host.v6Text n, c ≠ ']' := by
      intro c hc
      obtain rfl | ⟨k, small, rfl⟩ := Host.v6Text_cases n c hc
      · decide
      · exact (not_mark_of_isSign (Host.isSign_hexDigit small)).2.2
    rw [Host.text, List.cons_append, List.append_assoc, List.singleton_append, splitHost_cons,
      if_neg (by decide)]
    simp [splitHost_bracket inside]

/-! ## Ports -/

/-- Digits of a small number are read as a port. -/
theorem portFrom_digits {ds : List Char} (digits : ∀ c ∈ ds, isDigit c = true) {start : Nat}
    (small : Text.valueFrom start ds < 65536) : portFrom start ds = .ok (Text.valueFrom start ds) := by
  induction ds generalizing start with
  | nil => rfl
  | cons c ds ih =>
    obtain ⟨first, others⟩ := List.forall_mem_cons.mp digits
    have below := Nat.lt_of_le_of_lt (Text.le_valueFrom (10 * start + Text.digitValue c) ds) small
    rw [portFrom, if_pos first]
    simp only
    rw [if_pos below]
    exact ih others small

/-- A port is small. -/
theorem portFrom_lt {n start : Nat} (small : start < 65536) (h : portFrom start s = .ok n) : n < 65536 := by
  induction s generalizing start with
  | nil =>
    cases h
    exact small
  | cons c s ih =>
    rw [portFrom] at h
    split at h
    · simp only at h
      split at h
      · rename_i below
        exact ih below h
      · cases h
    · cases h

/-- **A port is read back**; the default one counts as none. -/
theorem readPort_natural {n : Nat} (small : n < 65536) (default? : Option Nat) :
    readPort default? (some (natural n)) = .ok (if default? = some n then none else some n) := by
  have value : Text.valueFrom 0 (natural n) = n := Text.value_natural n
  have read : portFrom 0 (natural n) = .ok (Text.valueFrom 0 (natural n)) :=
    portFrom_digits (natural_isDigit n) (by rwa [value])
  rw [value] at read
  rw [readPort, read]
  · rfl
  · exact fun none => natural_ne_nil n none

/-- A port that is kept is small and not the default one. -/
theorem readPort_bounds {default? port : Option Nat} {given : Option (List Char)}
    (h : readPort default? given = .ok port) : ∀ n ∈ port, n < 65536 ∧ default? ≠ some n := by
  unfold readPort at h
  split at h
  · cases h
    exact fun _ none => by cases none
  · cases h
    exact fun _ none => by cases none
  · rename_i ds _
    cases read : portFrom 0 ds with
    | error f =>
      rw [read] at h
      cases h
    | ok n =>
      rw [read] at h
      simp only [Except.map, Except.ok.injEq] at h
      subst h
      split
      · exact fun _ none => by cases none
      · rename_i other
        intro m hm
        cases hm
        exact ⟨portFrom_lt (by decide) read, other⟩

/-! ## Host and port -/

theorem readPlace_eq_ok [InternationalNames] {standard : Nat} {a : Authority} {host : Host} {port : Option Nat} :
    readPlace standard a = .ok (host, port) ↔
      a.host ≠ [] ∧ Host.read a.host = .ok host ∧ readPort (some standard) a.port = .ok port := by
  unfold readPlace
  split
  · rename_i none
    simp [List.isEmpty_iff.mp none]
  · rename_i given
    have given : a.host ≠ [] := by simpa using given
    simp only [bind, Except.bind, pure, Except.pure]
    cases Host.read a.host <;> cases readPort (some standard) a.port <;> simp [given]

end PolicyDesk.Address
