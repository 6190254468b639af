import Mathlib.Data.List.Induction
import PolicyDesk.Address.Reading
import PolicyDesk.Proofs.Text.Percent
import PolicyDesk.Proofs.Text.Pieces

/-!
# Paths are read as they are written

* `WebPath.IsPlain`, `WebPath.Normal`: a piece that stands for itself, and a path of such pieces.
* `dots_percentEncode`: writing the reserved characters as codes makes no dots.
* `read_normal`: what is read has this form; `read_text`: and this form is read back.
* `leaf_read_eq_nil_iff`, `text_ends_in_slash_iff`: when a path ends in a slash.
* `below_normal`, `below_text`: the path one step below.
-/

namespace PolicyDesk

open Text (Unreserved percentEncode percentByte capitalDigit)

namespace WebPath

variable {piece s : List Char}

/-! ## Dots -/

theorem dots_cons_of_ne {c : Char} (h : c ≠ '%') (s : List Char) : dots (c :: s) = c :: dots s := by
  rw [dots]
  · exact fun _ sign _ => h sign
  · exact fun _ sign _ => h sign

theorem dots_percent (h : ∀ r, s ≠ '2' :: 'e' :: r ∧ s ≠ '2' :: 'E' :: r) : dots ('%' :: s) = '%' :: dots s := by
  rw [dots]
  · rintro r - rfl
    exact (h r).1 rfl
  · rintro r - rfl
    exact (h r).2 rfl

theorem dots_of_none (h : ∀ c ∈ s, c ≠ '%') : dots s = s := by
  induction s with
  | nil => rfl
  | cons c s ih =>
    obtain ⟨first, others⟩ := List.forall_mem_cons.mp h
    rw [dots_cons_of_ne first, ih others]

/-- A code is no dot, unless it is the code of the dot. -/
theorem dots_percentByte {b : UInt8} (h : b ≠ 0x2E) (s : List Char) :
    dots (percentByte b ++ s) = percentByte b ++ dots s := by
  have small := b.toNat_lt
  have high := Text.capitalDigit_low (n := b.toNat / 16) (by omega)
  have low := Text.capitalDigit_low (n := b.toNat % 16) (by omega)
  have two : ∀ n < 16, capitalDigit n = '2' → n = 2 := by decide
  have small : ∀ n < 16, capitalDigit n ≠ 'e' := by decide
  have large : ∀ n < 16, capitalDigit n = 'E' → n = 14 := by decide
  simp only [percentByte, List.cons_append, List.nil_append]
  rw [dots_percent, dots_cons_of_ne high.2, dots_cons_of_ne low.2]
  intro r
  constructor
  · intro same
    exact small _ (by omega) (List.cons.inj (List.cons.inj same).2).1
  · intro same
    obtain ⟨first, second⟩ := List.cons.inj same
    have h₁ := two _ (by omega) first
    have h₂ := large _ (by omega) (List.cons.inj second).1
    refine h (UInt8.toNat_inj.mp ?_)
    change b.toNat = 46
    omega

/-- **Writing codes makes no dots.** Of the code of a dot the signs are all there before, since a dot is not
    reserved. -/
theorem dots_percentEncode (piece : List Char) :
    dots (percentEncode Reserved.inPath piece) = percentEncode Reserved.inPath (dots piece) := by
  have percent : Unreserved Reserved.inPath '%' := by decide
  have two : Unreserved Reserved.inPath '2' := by decide
  have small : Unreserved Reserved.inPath 'e' := by decide
  have large : Unreserved Reserved.inPath 'E' := by decide
  have dot : Unreserved Reserved.inPath '.' := by decide
  fun_induction dots piece with
  | case1 rest ih =>
    rw [Text.percentEncode_cons_of_unreserved percent, Text.percentEncode_cons_of_unreserved two,
      Text.percentEncode_cons_of_unreserved small, Text.percentEncode_cons_of_unreserved dot, dots, ih]
  | case2 rest ih =>
    rw [Text.percentEncode_cons_of_unreserved percent, Text.percentEncode_cons_of_unreserved two,
      Text.percentEncode_cons_of_unreserved large, Text.percentEncode_cons_of_unreserved dot, dots, ih]
  | case3 c rest notSmall notLarge ih =>
    by_cases kept : Unreserved Reserved.inPath c
    · rw [Text.percentEncode_cons_of_unreserved kept, Text.percentEncode_cons_of_unreserved kept, ← ih]
      by_cases sign : c = '%'
      · subst sign
        -- the two signs behind it would have been there before
        have before : ∀ {e : Char} {r : List Char}, e ≠ '%' →
            percentEncode Reserved.inPath rest = '2' :: e :: r → ∃ r', rest = '2' :: e :: r' := by
          intro e r ne same
          obtain ⟨r₁, rfl, same₁⟩ := Text.eq_cons_of_percentEncode same (by decide)
          obtain ⟨r₂, rfl, -⟩ := Text.eq_cons_of_percentEncode same₁ ne
          exact ⟨r₂, rfl⟩
        refine dots_percent fun r => ⟨fun same => ?_, fun same => ?_⟩
        · obtain ⟨r', rfl⟩ := before (by decide) same
          exact notSmall r' rfl rfl
        · obtain ⟨r', rfl⟩ := before (by decide) same
          exact notLarge r' rfl rfl
      · exact dots_cons_of_ne sign _
    · have codes : ∀ bs : List UInt8, (∀ b ∈ bs, b ≠ 0x2E) → ∀ t,
          dots (bs.flatMap percentByte ++ t) = bs.flatMap percentByte ++ dots t := by
        intro bs
        induction bs with
        | nil => exact fun _ _ => rfl
        | cons b bs ih =>
          intro h t
          obtain ⟨first, others⟩ := List.forall_mem_cons.mp h
          rw [List.flatMap_cons, List.append_assoc, dots_percentByte first, ih others, List.append_assoc]
      have noDot : ∀ b ∈ String.utf8EncodeChar c, b ≠ 0x2E := by
        rintro b mem rfl
        obtain ⟨low, one⟩ | ⟨-, -, high⟩ := Text.utf8EncodeChar_cases c
        · rw [one, List.mem_singleton] at mem
          have same := congrArg UInt8.toNat mem
          rw [UInt8.toNat_ofNat_of_lt' (show c.toNat < 256 by omega)] at same
          have isDot : c = '.' := by
            rw [← Char.ofNat_toNat c, ← same]
            rfl
          exact kept (isDot ▸ dot)
        · exact absurd (high _ mem) (by decide)
      rw [Text.percentEncode_cons_of_reserved kept, Text.percentEncode_cons_of_reserved kept, codes _ noDot, ih]
  | case4 => rfl

/-! ## Pieces that stand for themselves -/

/-- A piece that stands for itself: nothing in it is reserved, no slash, and it is no dots. -/
structure IsPlain (piece : List Char) : Prop where
  unreserved : ∀ c ∈ piece, Unreserved Reserved.inPath c
  noSlash : ∀ c ∈ piece, isSlash c = false
  notHere : isHere piece = false
  notUp : isUp piece = false

/-- A path of pieces that stand for themselves. -/
structure Normal (p : WebPath) : Prop where
  folders : ∀ f ∈ p.folders, IsPlain f
  leaf : IsPlain p.leaf

theorem isPlain_nil : IsPlain [] where
  unreserved c hc := by cases hc
  noSlash c hc := by cases hc
  notHere := rfl
  notUp := rfl

/-- Text of dots is written by dots only. -/
theorem eq_of_percentEncode_dots {n : Nat} (h : percentEncode Reserved.inPath s = List.replicate n '.') :
    s = List.replicate n '.' := by
  induction n generalizing s with
  | zero => exact Text.percentEncode_eq_nil_iff.mp h
  | succ n ih =>
    rw [List.replicate_succ] at h ⊢
    obtain ⟨r, rfl, rest⟩ := Text.eq_cons_of_percentEncode h (by decide)
    rw [ih rest]

/-- A piece that is no dots stands for itself once it is written with codes. -/
theorem isPlain_percentEncode (slash : ∀ c ∈ piece, isSlash c = false) (here : isHere piece = false)
    (up : isUp piece = false) : IsPlain (percentEncode Reserved.inPath piece) where
  unreserved := Text.percentEncode_unreserved (by decide) piece
  noSlash := Text.forall_percentEncode (by decide) (by decide) fun c hc _ => slash c hc
  notHere := by
    rw [isHere, beq_eq_false_iff_ne, dots_percentEncode] at *
    exact fun same => here (eq_of_percentEncode_dots (n := 1) same)
  notUp := by
    rw [isUp, beq_eq_false_iff_ne, dots_percentEncode] at *
    exact fun same => up (eq_of_percentEncode_dots (n := 2) same)

/-- Digits stand for themselves. -/
theorem isPlain_of_digits (digits : ∀ c ∈ piece, Text.isDigit c = true) : IsPlain piece := by
  have all : ∀ n < 10, (Unreserved Reserved.inPath (Text.digitChar n)) ∧ isSlash (Text.digitChar n) = false ∧
      Text.digitChar n ≠ '%' ∧ Text.digitChar n ≠ '.' := by decide
  have known : ∀ c ∈ piece, Unreserved Reserved.inPath c ∧ isSlash c = false ∧ c ≠ '%' ∧ c ≠ '.' := by
    intro c hc
    obtain ⟨n, small, rfl⟩ := Text.eq_digitChar_of_isDigit (digits c hc)
    exact all n small
  have dots : dots piece = piece := dots_of_none fun c hc => (known c hc).2.2.1
  have noDots : ∀ n, piece ≠ List.replicate (n + 1) '.' := by
    rintro n rfl
    exact (known '.' (by simp)).2.2.2 rfl
  refine ⟨fun c hc => (known c hc).1, fun c hc => (known c hc).2.1, ?_, ?_⟩
  · rw [isHere, dots, beq_eq_false_iff_ne]
    exact noDots 0
  · rw [isUp, dots, beq_eq_false_iff_ne]
    exact noDots 1

/-! ## What is read is plain -/

/-- No slash is left in a piece. -/
theorem noSlash_of_mem_pieces (s : List Char) : ∀ p ∈ Text.pieces isSlash s, ∀ c ∈ p, isSlash c = false := by
  induction s with
  | nil => simp
  | cons c s ih =>
    rw [Text.pieces_cons]
    split
    · exact List.forall_mem_cons.mpr ⟨fun _ h => (by cases h), ih⟩
    · rename_i plain
      have plain : isSlash c = false := by simpa using plain
      cases left : Text.pieces isSlash s with
      | nil => exact absurd left (Text.pieces_ne_nil isSlash s)
      | cons p ps =>
        rw [left] at ih
        obtain ⟨first, others⟩ := List.forall_mem_cons.mp ih
        exact List.forall_mem_cons.mpr ⟨List.forall_mem_cons.mpr ⟨plain, first⟩, others⟩

variable {folders : List (List Char)}

theorem up_plain (h : ∀ f ∈ folders, IsPlain f) : ∀ f ∈ up folders, IsPlain f := by
  unfold up
  split
  · exact h
  · exact fun f hf => h f (List.dropLast_subset _ hf)

theorem enter_plain (h : ∀ f ∈ folders, IsPlain f) (slash : ∀ c ∈ piece, isSlash c = false) :
    ∀ f ∈ enter folders piece, IsPlain f := by
  unfold enter
  split
  · exact up_plain h
  · rename_i up
    split
    · exact h
    · rename_i here
      refine List.forall_mem_append.mpr ⟨h, List.forall_mem_singleton.mpr ?_⟩
      exact isPlain_percentEncode slash (by simpa using here) (by simpa using up)

theorem close_normal (h : ∀ f ∈ folders, IsPlain f) (slash : ∀ c ∈ piece, isSlash c = false) :
    (close folders piece).Normal := by
  unfold close
  split
  · exact ⟨up_plain h, isPlain_nil⟩
  · rename_i up
    split
    · exact ⟨h, isPlain_nil⟩
    · rename_i here
      exact ⟨h, isPlain_percentEncode slash (by simpa using here) (by simpa using up)⟩

theorem ofPieces_normal {ps : List (List Char)} (slash : ∀ p ∈ ps, ∀ c ∈ p, isSlash c = false)
    (h : ∀ f ∈ folders, IsPlain f) : (ofPieces folders ps).Normal := by
  induction ps generalizing folders with
  | nil => exact ⟨h, isPlain_nil⟩
  | cons p ps ih =>
    obtain ⟨first, others⟩ := List.forall_mem_cons.mp slash
    cases ps with
    | nil => exact close_normal h first
    | cons q ps => exact ih others (enter_plain h first)

/-- The pieces of a path as it is spelled; the slash it starts with may be missing. -/
def spelledPieces : List Char → List (List Char)
  | c :: rest => if isSlash c then Text.pieces isSlash rest else Text.pieces isSlash (c :: rest)
  | [] => [[]]

theorem read_eq (s : List Char) : read s = ofPieces [] (spelledPieces s) := by
  cases s with
  | nil => rfl
  | cons c s =>
    unfold read spelledPieces
    simp only
    split <;> rfl

theorem spelledPieces_noSlash (s : List Char) : ∀ p ∈ spelledPieces s, ∀ c ∈ p, isSlash c = false := by
  cases s with
  | nil => simp [spelledPieces]
  | cons c s =>
    rw [spelledPieces]
    split
    · exact noSlash_of_mem_pieces s
    · exact noSlash_of_mem_pieces (c :: s)

theorem spelledPieces_ne_nil (s : List Char) : spelledPieces s ≠ [] := by
  cases s with
  | nil => exact List.cons_ne_nil _ _
  | cons c s =>
    rw [spelledPieces]
    split
    · exact Text.pieces_ne_nil isSlash s
    · exact Text.pieces_ne_nil isSlash (c :: s)

/-- **What is read is a path of plain pieces.** -/
theorem read_normal (s : List Char) : (read s).Normal := by
  rw [read_eq]
  exact ofPieces_normal (spelledPieces_noSlash s) fun _ h => by cases h

/-! ## Plain pieces are read back -/

theorem enter_of_plain (h : IsPlain piece) : enter folders piece = folders ++ [piece] := by
  rw [enter, h.notUp, h.notHere, Text.percentEncode_eq_self h.unreserved]
  rfl

theorem close_of_plain (h : IsPlain piece) : close folders piece = ⟨folders, piece⟩ := by
  rw [close, h.notUp, h.notHere, Text.percentEncode_eq_self h.unreserved]
  rfl

theorem ofPieces_of_plain {fs : List (List Char)} (hf : ∀ f ∈ fs, IsPlain f) (hp : IsPlain piece) :
    ofPieces folders (fs ++ [piece]) = ⟨folders ++ fs, piece⟩ := by
  induction fs generalizing folders with
  | nil =>
    rw [List.nil_append, List.append_nil]
    exact close_of_plain hp
  | cons f fs ih =>
    obtain ⟨first, others⟩ := List.forall_mem_cons.mp hf
    have step : ofPieces folders (f :: fs ++ [piece]) = ofPieces (enter folders f) (fs ++ [piece]) := by
      cases fs <;> rfl
    rw [step, enter_of_plain first, ih others]
    simp

/-- Folders, each with a slash behind it, and what follows them are the pieces. -/
theorem pieces_folders {fs : List (List Char)} (h : ∀ f ∈ fs, ∀ c ∈ f, isSlash c = false) (s : List Char) :
    Text.pieces isSlash (fs.flatMap (· ++ ['/']) ++ s) = fs ++ Text.pieces isSlash s := by
  induction fs with
  | nil => rfl
  | cons f fs ih =>
    obtain ⟨first, others⟩ := List.forall_mem_cons.mp h
    have slash : isSlash '/' = true := rfl
    rw [List.flatMap_cons, List.append_assoc, List.append_assoc, List.singleton_append,
      Text.pieces_cons_separator first slash, ih others, List.cons_append]

/-- **A path of plain pieces is read as it is written.** -/
theorem read_text {p : WebPath} (h : p.Normal) : read p.text = p := by
  have slashes : ∀ f ∈ p.folders, ∀ c ∈ f, isSlash c = false := fun f hf => (h.folders f hf).noSlash
  have pieces : spelledPieces p.text = p.folders ++ [p.leaf] := by
    change Text.pieces isSlash (p.folders.flatMap (· ++ ['/']) ++ p.leaf) = _
    rw [pieces_folders slashes, Text.pieces_of_none h.leaf.noSlash]
  rw [read_eq, pieces, ofPieces_of_plain h.folders h.leaf, List.nil_append]

theorem text_starts (p : WebPath) : ∃ t, p.text = '/' :: t := ⟨_, rfl⟩

/-- What holds of slashes and of the characters that are not reserved holds of all of a path. -/
theorem Normal.forall_text {P : Char → Prop} {p : WebPath} (h : p.Normal) (slash : P '/')
    (plain : ∀ c, Unreserved Reserved.inPath c → isSlash c = false → P c) : ∀ c ∈ p.text, P c := by
  have piece : ∀ {f : List Char}, IsPlain f → ∀ c ∈ f, P c := fun hf c hc =>
    plain c (hf.unreserved c hc) (hf.noSlash c hc)
  refine List.forall_mem_cons.mpr ⟨slash, List.forall_mem_append.mpr ⟨fun c hc => ?_, piece h.leaf⟩⟩
  obtain ⟨f, hf, mem⟩ := List.mem_flatMap.mp hc
  exact List.forall_mem_append.mpr ⟨piece (h.folders f hf), List.forall_mem_singleton.mpr slash⟩ c mem

/-! ## A slash at the end -/

/-- A piece that names a folder when it comes last: an empty one, or dots. -/
def NamesFolder (piece : List Char) : Prop := piece = [] ∨ isHere piece = true ∨ isUp piece = true

theorem leaf_close_eq_nil_iff : (close folders piece).leaf = [] ↔ NamesFolder piece := by
  unfold close NamesFolder
  split
  · rename_i up
    simp [up]
  · rename_i up
    split
    · rename_i here
      simp [here]
    · rename_i here
      simp [up, here, Text.percentEncode_eq_nil_iff]

theorem leaf_ofPieces_eq_nil_iff {ps : List (List Char)} (some : ps ≠ []) :
    (ofPieces folders ps).leaf = [] ↔ NamesFolder (ps.getLast some) := by
  induction ps generalizing folders with
  | nil => exact absurd rfl some
  | cons p ps ih =>
    cases ps with
    | nil => exact leaf_close_eq_nil_iff
    | cons q ps =>
      rw [List.getLast_cons (List.cons_ne_nil q ps)]
      exact ih (List.cons_ne_nil q ps)

/-- The last piece of a path as it is spelled. -/
def lastPiece (s : List Char) : List Char := (spelledPieces s).getLast (spelledPieces_ne_nil s)

/-- A path that is read has nothing behind its last slash exactly if its last piece names a folder. -/
theorem leaf_read_eq_nil_iff (s : List Char) : (read s).leaf = [] ↔ NamesFolder (lastPiece s) := by
  rw [read_eq]
  exact leaf_ofPieces_eq_nil_iff (spelledPieces_ne_nil s)

theorem text_ends_in_slash_iff {p : WebPath} (h : p.Normal) : p.text.getLast? = some '/' ↔ p.leaf = [] := by
  cases leaf : p.leaf.getLast? with
  | none =>
    have empty := List.getLast?_eq_none_iff.mp leaf
    rw [text, empty, List.append_nil]
    refine iff_of_true ?_ rfl
    cases folders : p.folders using List.reverseRecOn with
    | nil => rfl
    | append_singleton fs f =>
      rw [List.flatMap_append, List.flatMap_singleton, ← List.append_assoc, ← List.cons_append,
        List.getLast?_append]
      rfl
  | some c =>
    have mem := List.mem_of_getLast? leaf
    have plain := h.leaf.noSlash c mem
    have nonempty : p.leaf ≠ [] := List.ne_nil_of_mem mem
    rw [text, ← List.cons_append, List.getLast?_append, leaf]
    refine iff_of_false ?_ nonempty
    intro same
    cases same
    cases plain

theorem text_eq_slash_iff {p : WebPath} : p.text = ['/'] ↔ p = ⟨[], []⟩ := by
  obtain ⟨folders, leaf⟩ := p
  constructor
  · intro h
    obtain ⟨none, rfl⟩ := List.append_eq_nil_iff.mp (List.cons.inj h).2
    cases folders with
    | nil => rfl
    | cons f fs => simp at none
  · intro h
    rw [h]
    rfl

theorem text_eq_slashes_iff {p : WebPath} (h : p.Normal) : p.text = ['/', '/'] ↔ p.leaf = [] ∧ p.folders = [[]] := by
  constructor
  · intro same
    have leaf : p.leaf = [] := by
      rw [← text_ends_in_slash_iff h, same]
      rfl
    have front := (List.cons.inj same).2
    rw [leaf, List.append_nil] at front
    refine ⟨leaf, ?_⟩
    cases folders : p.folders with
    | nil =>
      rw [folders] at front
      cases front
    | cons f fs =>
      rw [folders, List.flatMap_cons, List.append_assoc] at front
      cases f with
      | nil =>
        cases fs with
        | nil => rfl
        | cons g gs => simp at front
      | cons c f => simp at front
  · rintro ⟨leaf, folders⟩
    rw [text, leaf, folders]
    rfl

/-! ## One step below -/

theorem below_normal {p : WebPath} (h : p.Normal) (leaf : IsPlain piece) : (p.below piece).Normal := by
  unfold below
  split
  · split
    · exact ⟨fun _ hf => (by cases hf), leaf⟩
    · exact ⟨h.folders, leaf⟩
  · exact ⟨List.forall_mem_append.mpr ⟨h.folders, List.forall_mem_singleton.mpr h.leaf⟩, leaf⟩

theorem below_leaf (p : WebPath) (step : List Char) : (p.below step).leaf = step := by
  unfold below
  split
  · split <;> rfl
  · rfl

/-- A step leads to another path. -/
theorem below_ne {step : List Char} (some : step ≠ []) (p : WebPath) : p.below step ≠ p := by
  intro same
  have leaf : p.leaf = step := by rw [← same, below_leaf]
  have folders := congrArg (fun q => q.folders.length) same
  unfold below at folders
  rw [leaf, if_neg (by simpa using some)] at folders
  simp at folders

/-- A path without one slash at its end. -/
def withoutSlash (s : List Char) : List Char := if s.getLast? = some '/' then s.dropLast else s

/-- **The path one step below** is the path without one slash at its end, a slash and the step. Only behind two
    slashes and nothing else both of them go. -/
theorem below_text {p : WebPath} (h : p.Normal) (step : List Char) :
    (p.below step).text = if p.text = ['/', '/'] then '/' :: step else withoutSlash p.text ++ '/' :: step := by
  have ends := text_ends_in_slash_iff h
  rw [if_congr (text_eq_slashes_iff h) rfl rfl]
  unfold below withoutSlash
  by_cases leaf : p.leaf = []
  · rw [if_pos (ends.mpr leaf), if_pos (by rw [leaf]; rfl)]
    by_cases folders : p.folders = [[]]
    · rw [if_pos folders, if_pos ⟨leaf, folders⟩]
      rfl
    · rw [if_neg folders, if_neg fun both => folders both.2]
      have split : p.text = p.text.dropLast ++ ['/'] :=
        (List.dropLast_append_getLast? '/' (ends.mpr leaf)).symm
      have text : p.text ++ step = '/' :: (p.folders.flatMap (· ++ ['/']) ++ step) := by
        rw [WebPath.text, leaf, List.append_nil, List.cons_append]
      rw [← List.singleton_append (l := step), ← List.append_assoc, ← split, text]
      rfl
  · rw [if_neg (mt ends.mp leaf), if_neg (by simpa using leaf), if_neg fun both => leaf both.1]
    simp [WebPath.text]

end WebPath

end PolicyDesk
