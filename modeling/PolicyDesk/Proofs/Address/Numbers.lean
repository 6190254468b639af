import Mathlib.Data.List.TakeWhile
import PolicyDesk.Address.Host
import PolicyDesk.Proofs.Text.Digits
import PolicyDesk.Proofs.Text.Pieces

/-!
# Host numbers are read as they are written

* `numberIn?_natural`, `numberIn?_hex`: decimal and hexadecimal numbers are read back.
* `readV4_text`: a number of four bytes is read back from its four decimal parts.
* `splitDoubleColon_groups`: groups of digits hold no double colon, so the first one is that of the zeros.
* `zeroRun?_eq_some`: what is cut out is a run of at least two zeros.
* `readV6_text`: a number of eight groups is read back, with or without a double colon.
-/

namespace PolicyDesk.Host

open Text (isDigit digitValue hex hexDigit joined natural natural_isDigit natural_ne_nil pieces)

/-! ## Numbers in a radix -/

theorem digitIn?_isDigit {c : Char} (h : isDigit c = true) : digitIn? 10 c = some (digitValue c) := by
  simp only [isDigit, Bool.and_eq_true, decide_eq_true_eq] at h
  have low : 48 ≤ c.toNat := h.1
  have high : c.toNat ≤ 57 := h.2
  have small : c.toNat - 48 < 10 := by omega
  simp [digitIn?, low, high, small, digitValue]

/-- Decimal digits are read as their number, on from the number before them. -/
theorem numberFrom_digits {ds : List Char} (h : ∀ c ∈ ds, isDigit c = true) (start : Nat) :
    ds.foldlM (fun n c => (digitIn? 10 c).map (10 * n + ·)) start = some (Text.valueFrom start ds) := by
  induction ds generalizing start with
  | nil => rfl
  | cons c ds ih =>
    obtain ⟨first, others⟩ := List.forall_mem_cons.mp h
    rw [List.foldlM_cons, digitIn?_isDigit first]
    exact ih others _

theorem numberIn?_natural (n : Nat) : numberIn? 10 (natural n) = some n := by
  have read := numberFrom_digits (natural_isDigit n) 0
  rwa [show Text.valueFrom 0 (natural n) = n from Text.value_natural n] at read

theorem digitIn?_hexDigit {n : Nat} (h : n < 16) : digitIn? 16 (hexDigit n) = some n := by
  have all : ∀ n < 16, digitIn? 16 (hexDigit n) = some n := by decide
  exact all n h

theorem numberIn?_hex (n : Nat) : numberIn? 16 (hex n) = some n := by
  rw [hex]
  split
  · rename_i h
    simp [numberIn?, digitIn?_hexDigit h]
  · have ih := numberIn?_hex (n / 16)
    rw [numberIn?] at ih ⊢
    rw [List.foldlM_append, ih]
    simp only [Option.bind_eq_bind, Option.bind_some, List.foldlM_cons, List.foldlM_nil,
      digitIn?_hexDigit (Nat.mod_lt n (by decide)), Option.map_some]
    exact congrArg some (by omega)
termination_by n
decreasing_by omega

theorem hex_ne_nil (n : Nat) : hex n ≠ [] := by
  rw [hex]
  split <;> simp

theorem hex_length_le {n k : Nat} (pos : 0 < k) (h : n < 16 ^ k) : (hex n).length ≤ k := by
  induction k generalizing n with
  | zero => cases pos
  | succ k ih =>
    rw [hex]
    split
    · exact Nat.succ_le_succ (Nat.zero_le k)
    · rename_i large
      have some : 0 < k := by
        rcases Nat.eq_zero_or_pos k with rfl | some
        · omega
        · exact some
      have front := ih some (n := n / 16) (by rw [Nat.pow_succ] at h; omega)
      simpa using front

/-- A small hexadecimal digit. -/
def IsHexDigit (c : Char) : Prop := ∃ n < 16, c = hexDigit n

theorem hex_isHexDigit (n : Nat) : ∀ c ∈ hex n, IsHexDigit c := by
  rw [hex]
  split
  · rename_i h
    exact List.forall_mem_singleton.mpr ⟨n, h, rfl⟩
  · exact List.forall_mem_append.mpr
      ⟨hex_isHexDigit (n / 16), List.forall_mem_singleton.mpr ⟨n % 16, Nat.mod_lt n (by decide), rfl⟩⟩
termination_by n
decreasing_by omega

/-! ## Four bytes -/

/-- Behind another digit than zero a part is decimal. -/
theorem part?_of_head {s : List Char} (some : s ≠ []) (lead : s.head? ≠ .some '0') : part? s = numberIn? 10 s := by
  unfold part?
  split
  · exact absurd rfl some
  · exact absurd rfl lead
  · exact absurd rfl lead
  · exact absurd rfl lead
  · rfl

theorem part?_natural (n : Nat) : part? (natural n) = some n := by
  by_cases zero : n = 0
  · have digit : natural n = ['0'] := by
      rw [zero, natural]
      rfl
    rw [digit, zero]
    rfl
  · rw [part?_of_head (natural_ne_nil n) (Text.natural_head_ne_zero zero), numberIn?_natural]

/-- The four bytes of a number. -/
def bytes (n : UInt32) : List Nat :=
  [n.toNat / 16777216, n.toNat / 65536 % 256, n.toNat / 256 % 256, n.toNat % 256]

theorem v4Text_eq (n : UInt32) : v4Text n = joined ['.'] ((bytes n).map natural) := rfl

theorem natural_noMark {mark : Char} (h : isDigit mark = false) (n : Nat) :
    ∀ c ∈ natural n, (c == mark) = false := by
  intro c hc
  rw [beq_eq_false_iff_ne]
  rintro rfl
  rw [natural_isDigit n c hc] at h
  cases h

theorem dottedParts_v4Text (n : UInt32) : dottedParts (v4Text n) = (bytes n).map natural := by
  have parts : pieces (· == '.') (v4Text n) = (bytes n).map natural := by
    rw [v4Text_eq]
    refine Text.pieces_joined rfl (by simp [bytes]) fun p hp => ?_
    obtain ⟨k, -, rfl⟩ := List.mem_map.mp hp
    exact natural_noMark (by decide) k
  unfold dottedParts
  rw [parts]
  simp only
  rw [if_neg (by simp [bytes, natural_ne_nil])]

theorem endsInNumber_v4Text (n : UInt32) : endsInNumber (v4Text n) = true := by
  rw [endsInNumber, dottedParts_v4Text]
  simp [bytes, part?_natural]

/-- **Four bytes are read back** from their decimal parts. -/
theorem readV4_text (n : UInt32) : readV4 (v4Text n) = .ok n := by
  have parts : ((bytes n).map natural).mapM part? = some (bytes n) := by
    simp [bytes, part?_natural]
  have small : n.toNat < 4294967296 := n.toNat_lt
  have fits : (bytes n).length ≤ 4 ∧ (bytes n).dropLast.all (· < 256) ∧
      (bytes n).getLastD 0 < Nat.pow 256 (4 - (bytes n).dropLast.length) := by
    refine ⟨Nat.le_refl 4, ?_, ?_⟩
    · simp only [bytes, List.dropLast_cons_cons, List.dropLast_singleton, List.all_cons, List.all_nil, Bool.and_true,
        Bool.and_eq_true, decide_eq_true_eq]
      omega
    · change n.toNat % 256 < 256
      omega
  have number : (bytes n).dropLast.foldl (fun n b => 256 * n + b) 0 *
      Nat.pow 256 (4 - (bytes n).dropLast.length) + (bytes n).getLastD 0 = n.toNat := by
    change (256 * (256 * (256 * 0 + n.toNat / 16777216) + n.toNat / 65536 % 256) + n.toNat / 256 % 256) * 256 +
      n.toNat % 256 = n.toNat
    omega
  rw [readV4, dottedParts_v4Text, parts]
  simp only
  rw [if_pos fits, number, UInt32.ofNat_toNat]

/-! ## Groups of sixteen bits -/

theorem group?_hex (g : UInt16) : group? (hex g.toNat) = some g := by
  have short := hex_length_le (k := 4) (by decide) (show g.toNat < 16 ^ 4 from g.toNat_lt)
  unfold group?
  rw [if_neg (by simp [hex_ne_nil]; omega), numberIn?_hex]
  simp

theorem hex_noMark {mark : Char} (h : ∀ n < 16, hexDigit n ≠ mark) (n : Nat) :
    ∀ c ∈ hex n, (c == mark) = false := by
  intro c hc
  obtain ⟨k, small, rfl⟩ := hex_isHexDigit n c hc
  simpa using h k small

theorem hex_noDot (n : Nat) : (hex n).contains '.' = false := by
  rw [List.contains_eq_any_beq, List.any_eq_false]
  intro c hc
  have other : (c == '.') = false := hex_noMark (by decide) n c hc
  rw [beq_eq_false_iff_ne] at other
  simpa using other.symm

theorem groups?_hex (dotted : Bool) (gs : List UInt16) :
    groups? dotted (gs.map fun g => hex g.toNat) = some gs := by
  induction gs with
  | nil => rfl
  | cons g gs ih =>
    cases gs with
    | nil => rw [List.map_singleton, groups?, hex_noDot, Bool.and_false, group?_hex]; rfl
    | cons h gs =>
      rw [List.map_cons, List.map_cons, groups?, ← List.map_cons (f := fun g : UInt16 => hex g.toNat), ih,
        group?_hex]
      simp

theorem pieces_groupsText {gs : List UInt16} (some : gs ≠ []) :
    pieces (· == ':') (groupsText gs) = gs.map fun g => hex g.toNat := by
  refine Text.pieces_joined rfl (by simpa using some) fun p hp => ?_
  obtain ⟨g, -, rfl⟩ := List.mem_map.mp hp
  exact hex_noMark (by decide) g.toNat

theorem groupsText_ne_nil {gs : List UInt16} (some : gs ≠ []) : groupsText gs ≠ [] := by
  cases gs with
  | nil => exact absurd rfl some
  | cons g gs =>
    rw [groupsText, List.map_cons, Text.joined_cons]
    simp [hex_ne_nil]

/-- Groups on one side of a double colon, or without one, are read back. -/
theorem side?_groupsText (dotted : Bool) (gs : List UInt16) : side? dotted (groupsText gs) = some gs := by
  by_cases none : gs = []
  · subst none
    rfl
  · rw [side?, if_neg (by simpa using groupsText_ne_nil none), pieces_groupsText none, groups?_hex]

/-! ## The double colon -/

variable {p s : List Char}

/-- A piece without colons does not hold a double colon. -/
theorem splitDoubleColon_piece (h : ∀ c ∈ p, c ≠ ':') (s : List Char) :
    splitDoubleColon (p ++ s) = (splitDoubleColon s).map fun r => (p ++ r.1, r.2) := by
  induction p with
  | nil => simp
  | cons c p ih =>
    obtain ⟨first, others⟩ := List.forall_mem_cons.mp h
    rw [List.cons_append, splitDoubleColon, ih others, Option.map_map]
    · rfl
    · exact fun _ same => absurd same first

/-- A colon with something else behind it is not one of two. -/
theorem splitDoubleColon_colon (h : ∀ c ∈ s.head?, c ≠ ':') :
    splitDoubleColon (':' :: s) = (splitDoubleColon s).map fun r => (':' :: r.1, r.2) := by
  rw [splitDoubleColon]
  rintro r - rfl
  exact h ':' rfl rfl

/-- **Groups hold no double colon**: the first one is in what follows them. -/
theorem splitDoubleColon_groups (gs : List UInt16) (s : List Char) :
    splitDoubleColon (groupsText gs ++ s) =
      (splitDoubleColon s).map fun r => (groupsText gs ++ r.1, r.2) := by
  have noColon : ∀ n, ∀ c ∈ hex n, c ≠ ':' := by
    intro n c hc
    have other : (c == ':') = false := hex_noMark (by decide) n c hc
    simpa using other
  induction gs with
  | nil => simp [groupsText, joined]
  | cons g gs ih =>
    cases gs with
    | nil => exact splitDoubleColon_piece (noColon g.toNat) s
    | cons h gs =>
      have text : groupsText (g :: h :: gs) = hex g.toNat ++ ':' :: groupsText (h :: gs) := by
        simp [groupsText, joined]
      -- a group has a digit at least, so no two colons meet
      have starts : ∀ c ∈ (groupsText (h :: gs) ++ s).head?, c ≠ ':' := by
        intro c hc
        have front : groupsText (h :: gs) = hex h.toNat ++ (gs.map fun g => hex g.toNat).flatMap ([':'] ++ ·) := by
          rw [groupsText, List.map_cons, Text.joined_cons]
        rw [front, List.append_assoc, List.head?_append_of_ne_nil _ (hex_ne_nil _)] at hc
        exact noColon _ c (List.mem_of_mem_head? hc)
      rw [text, List.append_assoc, splitDoubleColon_piece (noColon g.toNat), List.cons_append,
        splitDoubleColon_colon starts, ih, Option.map_map, Option.map_map]
      congr 1
      funext r
      simp

/-- **What is cut out is a run of at least two zeros.** -/
theorem zeroRun?_eq_some {gs : List UInt16} {start size : Nat} (h : zeroRun? gs = some (start, size)) :
    2 ≤ size ∧ gs = gs.take start ++ List.replicate size 0 ++ gs.drop (start + size) := by
  unfold zeroRun? at h
  simp only at h
  split at h
  · cases h
  · rename_i long
    obtain ⟨i, found, same⟩ := Option.map_eq_some_iff.mp h
    cases same
    refine ⟨Nat.le_of_not_lt long, ?_⟩
    -- the place that is found is one where a longest run is counted
    obtain ⟨inside, run, -⟩ := List.findIdx?_eq_some_iff_getElem.mp found
    rw [beq_iff_eq, List.getElem_map, List.getElem_range] at run
    rw [← run]
    have zeros : (gs.drop start).take (zerosAtStart (gs.drop start)) =
        List.replicate (zerosAtStart (gs.drop start)) 0 := by
      rw [zerosAtStart, ← List.prefix_iff_eq_take.mp (List.takeWhile_prefix _)]
      refine List.eq_replicate_of_mem fun g hg => ?_
      simpa using List.mem_takeWhile_imp hg
    rw [← zeros, ← List.drop_drop, List.append_assoc, List.take_append_drop, List.take_append_drop]

theorem fill?_zeros {before after : List UInt16} {size : Nat} (some : 1 ≤ size)
    (length : before.length + size + after.length = 8) :
    fill? before after = .some (before ++ List.replicate size 0 ++ after) := by
  unfold fill?
  simp only
  rw [if_pos (by omega), show 8 - (before.length + after.length) = size by omega]

/-- **Eight groups are read back**, however many of them a double colon stands for. -/
theorem readV6_text (n : HostGroups) : readV6 (v6Text n) = .ok n := by
  obtain ⟨gs, eight⟩ := n
  unfold v6Text
  simp only
  cases run : zeroRun? gs with
  | none =>
    have split : splitDoubleColon (groupsText gs) = none := by
      have := splitDoubleColon_groups gs []
      rwa [List.append_nil] at this
    simp [readV6, split, side?_groupsText, eight]
  | some r =>
    obtain ⟨start, size⟩ := r
    obtain ⟨long, parts⟩ := zeroRun?_eq_some run
    have length : (gs.take start).length + size + (gs.drop (start + size)).length = 8 := by
      have := congrArg List.length parts
      simp only [List.length_append, List.length_replicate] at this
      omega
    have split : splitDoubleColon
        (groupsText (gs.take start) ++ ':' :: ':' :: groupsText (gs.drop (start + size))) =
        some (groupsText (gs.take start), groupsText (gs.drop (start + size))) := by
      rw [splitDoubleColon_groups]
      simp [splitDoubleColon]
    have filled := fill?_zeros (by omega) length
    rw [← parts] at filled
    simp [readV6, split, side?_groupsText, filled, eight]

end PolicyDesk.Host
