import PolicyDesk.Proofs.Address.Numbers
import PolicyDesk.Proofs.Text.Percent
import PolicyDesk.Proofs.Text.Pieces

/-!
# Hosts are read as they are written

* `Host.IsSettled`, `Host.Normal`: names that are mapped to themselves, and hosts as they come out of reading.
* `read_of_signs`: signs are read without further ado, as a number if they end in one.
* `read_normal`: what is read has this form; `read_text`: and this form is read back.
* `Normal.forall_text`: what a host is written with.
-/

namespace PolicyDesk.Host

open Text (isDigit hex hexDigit natural natural_isDigit percentDecode utf8)

variable {c : Char} {s labels : List Char}

/-! ## Signs -/

theorem toLower_toLower (c : Char) : c.toLower.toLower = c.toLower := by
  have keep : ∀ d : Char, ¬ (d.val ≥ 'A'.val ∧ d.val ≤ 'Z'.val) → d.toLower = d := fun _ small => dif_neg small
  by_cases capital : c.val ≥ 'A'.val ∧ c.val ≤ 'Z'.val
  · have value : c.toLower.val = c.val + 32 := congrArg Char.val (dif_pos capital)
    have low : (65 : UInt32) ≤ c.val := capital.1
    have high : c.val ≤ (90 : UInt32) := capital.2
    refine keep c.toLower ?_
    rw [value]
    rintro ⟨-, small⟩
    have small : c.val + 32 ≤ (90 : UInt32) := small
    rw [UInt32.le_iff_toNat_le] at low high small
    rw [UInt32.toNat_add] at small
    simp only [UInt32.toNat_ofNat] at low high small
    omega
  · rw [keep c capital, keep c capital]

theorem isSign_hexDigit {n : Nat} (h : n < 16) : IsSign (hexDigit n) := by
  have all : ∀ n < 16, (hexDigit n).toNat < 0x80 ∧ isForbidden (hexDigit n) = false ∧
      (hexDigit n).toLower = hexDigit n := by decide
  obtain ⟨ascii, allowed, small⟩ := all n h
  exact ⟨ascii, allowed, small⟩

theorem isSign_of_isDigit (h : isDigit c = true) : IsSign c := by
  have all : ∀ n < 10, Text.digitChar n = hexDigit n := by decide
  obtain ⟨n, small, rfl⟩ := Text.eq_digitChar_of_isDigit h
  rw [all n small]
  exact isSign_hexDigit (by omega)

theorem isSign_dot : IsSign '.' := ⟨by decide, by decide, by decide⟩

theorem IsSign.ne_of_isForbidden {d : Char} (h : IsSign c) (bad : isForbidden d = true) : c ≠ d := by
  rintro rfl
  rw [h.allowed] at bad
  cases bad

/-! ## Names -/

/-- The bytes of ASCII characters are their numbers. -/
theorem utf8_of_ascii (h : ∀ c ∈ s, c.toNat < 0x80) : utf8 s = asciiBytes s := by
  induction s with
  | nil => rfl
  | cons c s ih =>
    obtain ⟨first, others⟩ := List.forall_mem_cons.mp h
    obtain ⟨-, one⟩ | ⟨high, -⟩ := Text.utf8EncodeChar_cases c
    · rw [utf8, List.flatMap_cons, one]
      exact congrArg _ (ih others)
    · omega

/-- A mark is spelled with a letter. -/
theorem mem_of_isMarked (h : isMarked s = true) : 'x' ∈ s := by
  obtain ⟨label, mem, marked⟩ := List.any_eq_true.mp h
  obtain ⟨rest, rfl⟩ := List.isPrefixOf_iff_prefix.mp marked
  exact Text.mem_of_mem_pieces mem (List.mem_append_left rest (by decide))

variable [names : InternationalNames]

/-- If the name has the mark of names beyond ASCII, it is mapped to itself. -/
def IsSettled (s : List Char) : Prop := isMarked s = true → names.mapped? (asciiBytes s) = some s

/-- What is known of a name that is read. -/
theorem known_of_name? {bytes : List UInt8} (h : name? bytes = some labels) :
    (∀ c ∈ labels, IsSign c) ∧ IsSettled labels := by
  unfold name? at h
  simp only at h
  split at h
  · rename_i plain
    obtain ⟨ascii, unmarked⟩ := Bool.and_eq_true_iff.mp plain
    split at h
    · cases h
    · rename_i allowed
      cases h
      refine ⟨fun c hc => ?_, fun marked => ?_⟩
      · have small : c.toLower = c := by
          obtain ⟨b, -, rfl⟩ := List.mem_map.mp hc
          exact toLower_toLower _
        have fine : isForbidden c = false :=
          Bool.eq_false_iff.mpr fun bad => allowed (List.any_eq_true.mpr ⟨c, hc, bad⟩)
        exact ⟨of_decide_eq_true (List.all_eq_true.mp ascii c hc), fine, small⟩
      · rw [marked] at unmarked
        cases unmarked
  · exact ⟨names.signs h, fun _ => names.settled h⟩

/-- **Signs stand for themselves** in a name. -/
theorem name?_of_signs (h : ∀ c ∈ s, IsSign c) (settled : IsSettled s) :
    name? (percentDecode (utf8 s)) = some s := by
  have back : ∀ c ∈ s, (UInt8.ofNat c.toNat).toNat = c.toNat := by
    intro c hc
    exact UInt8.toNat_ofNat_of_lt' (Nat.lt_trans (h c hc).ascii (by decide))
  have bytes : percentDecode (utf8 s) = asciiBytes s := by
    rw [utf8_of_ascii fun c hc => (h c hc).ascii]
    refine Text.percentDecodeOnto_of_none [] _ fun b hb => ?_
    obtain ⟨c, hc, rfl⟩ := List.mem_map.mp hb
    intro percent
    have number := congrArg UInt8.toNat percent
    rw [back c hc] at number
    refine (h c hc).ne_of_isForbidden (d := '%') (by decide) ?_
    rw [← Char.ofNat_toNat c, number]
    rfl
  have letters : (asciiBytes s).map (fun b => (Char.ofNat b.toNat).toLower) = s := by
    rw [asciiBytes, List.map_map]
    refine (List.map_congr_left fun c hc => ?_).trans (List.map_id s)
    rw [Function.comp, back c hc, Char.ofNat_toNat, (h c hc).small]
    rfl
  have ascii : s.all (·.toNat < 0x80) = true := List.all_eq_true.mpr fun c hc => decide_eq_true (h c hc).ascii
  have allowed : ¬s.any isForbidden = true := by
    intro bad
    obtain ⟨c, hc, bad⟩ := List.any_eq_true.mp bad
    rw [(h c hc).allowed] at bad
    cases bad
  rw [bytes, name?]
  simp only [letters, ascii, Bool.true_and]
  cases marked : isMarked s with
  | false => rw [Bool.not_false, if_pos rfl, if_neg allowed]
  | true => exact settled marked

/-- Signs are read without further ado, as a number if they end in one. -/
theorem read_of_signs (some : s ≠ []) (h : ∀ c ∈ s, IsSign c) (settled : IsSettled s) :
    read s = if endsInNumber s then (readV4 s).map v4 else .ok (.name s) := by
  have known := name?_of_signs h settled
  unfold read
  split
  · exact absurd rfl ((h '[' List.mem_cons_self).ne_of_isForbidden (by decide))
  · rw [known]
    cases s with
    | nil => exact absurd rfl some
    | cons c s => rfl

/-! ## Hosts -/

/-- A host as it comes out of reading: a name is written in signs, is mapped to itself, and does not end in a
    number. -/
def Normal : Host → Prop
  | name labels => labels ≠ [] ∧ (∀ c ∈ labels, IsSign c) ∧ endsInNumber labels = false ∧ IsSettled labels
  | v4 _ => True
  | v6 _ => True

/-- **What is read has this form.** -/
theorem read_normal {h : Host} (ok : read s = .ok h) : h.Normal := by
  unfold read at ok
  split at ok
  · split at ok
    · cases number : readV6 (List.dropLast _) with
      | error f =>
        rw [number] at ok
        cases ok
      | ok n =>
        rw [number] at ok
        cases ok
        trivial
    · cases ok
  · split at ok
    · cases ok
    · cases ok
    · rename_i labels nonempty known
      split at ok
      · cases number : readV4 labels with
        | error f =>
          rw [number] at ok
          cases ok
        | ok n =>
          rw [number] at ok
          cases ok
          trivial
      · rename_i noNumber
        cases ok
        obtain ⟨signs, settled⟩ := known_of_name? known
        exact ⟨fun none => nonempty (none ▸ rfl), signs, by simpa using noNumber, settled⟩

omit names in
theorem v4Text_cases (n : UInt32) : ∀ c ∈ v4Text n, c = '.' ∨ isDigit c = true := by
  have digits : ∀ n, ∀ c ∈ natural n, c = '.' ∨ isDigit c = true := fun n c hc => .inr (natural_isDigit n c hc)
  rw [v4Text_eq]
  have dot : ∀ c ∈ ['.'], c = '.' ∨ isDigit c = true := fun c hc => .inl (List.mem_singleton.mp hc)
  simp only [bytes, List.map_cons, List.map_nil, Text.joined, List.forall_mem_append]
  exact ⟨⟨digits _, dot⟩, ⟨digits _, dot⟩, ⟨digits _, dot⟩, digits _⟩

omit names in
theorem v4Text_isSign (n : UInt32) : ∀ c ∈ v4Text n, IsSign c := by
  intro c hc
  obtain rfl | digit := v4Text_cases n c hc
  · exact isSign_dot
  · exact isSign_of_isDigit digit

theorem v4Text_isSettled (n : UInt32) : IsSettled (v4Text n) := by
  intro marked
  obtain dot | digit := v4Text_cases n 'x' (mem_of_isMarked marked)
  · exact absurd dot (by decide)
  · exact absurd digit (by decide)

omit names in
/-- The characters that a number of eight groups is written with. -/
theorem v6Text_cases (n : HostGroups) : ∀ c ∈ v6Text n, c = ':' ∨ IsHexDigit c := by
  have groups : ∀ gs : List UInt16, ∀ c ∈ groupsText gs, c = ':' ∨ IsHexDigit c := by
    have digits : ∀ g : UInt16, ∀ c ∈ hex g.toNat, c = ':' ∨ IsHexDigit c := fun g c hc =>
      .inr (hex_isHexDigit g.toNat c hc)
    intro gs
    cases gs with
    | nil => exact fun _ h => by cases h
    | cons g gs =>
      rw [groupsText, List.map_cons, Text.joined_cons]
      refine List.forall_mem_append.mpr ⟨digits g, fun c hc => ?_⟩
      obtain ⟨t, ht, mem⟩ := List.mem_flatMap.mp hc
      obtain ⟨k, -, rfl⟩ := List.mem_map.mp ht
      exact List.forall_mem_cons.mpr ⟨.inl rfl, digits k⟩ c mem
  unfold v6Text
  simp only
  split
  · exact groups _
  · refine List.forall_mem_append.mpr ⟨groups _, ?_⟩
    exact List.forall_mem_cons.mpr ⟨.inl rfl, List.forall_mem_cons.mpr ⟨.inl rfl, groups _⟩⟩

/-- **A host in this form is read as it is written.** -/
theorem read_text {h : Host} (normal : h.Normal) : read h.text = .ok h := by
  cases h with
  | name labels =>
    obtain ⟨some, signs, noNumber, settled⟩ := normal
    rw [text, read_of_signs some signs settled, noNumber]
    rfl
  | v4 n =>
    have some : v4Text n ≠ [] := by
      rw [v4Text_eq, bytes, List.map_cons, Text.joined_cons]
      simp [Text.natural_ne_nil]
    rw [text, read_of_signs some (v4Text_isSign n) (v4Text_isSettled n), endsInNumber_v4Text, readV4_text]
    rfl
  | v6 n =>
    rw [text, read, List.getLast?_concat, if_pos rfl, List.dropLast_concat, readV6_text]
    rfl

theorem Normal.text_ne_nil {h : Host} (normal : h.Normal) : h.text ≠ [] := by
  intro none
  have read := read_text normal
  rw [none] at read
  cases read

/-- What holds of signs, colons and brackets holds of all of a host. -/
theorem Normal.forall_text {P : Char → Prop} {h : Host} (normal : h.Normal) (sign : ∀ c, IsSign c → P c)
    (colon : P ':') (openBracket : P '[') (closeBracket : P ']') : ∀ c ∈ h.text, P c := by
  cases h with
  | name labels => exact fun c hc => sign c (normal.2.1 c hc)
  | v4 n => exact fun c hc => sign c (v4Text_isSign n c hc)
  | v6 n =>
    refine List.forall_mem_cons.mpr ⟨openBracket, List.forall_mem_append.mpr
      ⟨fun c hc => ?_, List.forall_mem_singleton.mpr closeBracket⟩⟩
    obtain rfl | ⟨k, small, rfl⟩ := v6Text_cases n c hc
    · exact colon
    · exact sign _ (isSign_hexDigit small)

end PolicyDesk.Host
