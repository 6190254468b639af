import Mathlib.Data.List.Forall2
import PolicyDesk.Proofs.Json.Grammar
import PolicyDesk.Proofs.Text.Percent
import PolicyDesk.Proofs.Text.Pieces
import PolicyDesk.Web.FormBody

/-!
# Forms as browsers send them

* `Sign`, `Field`, `bodyText`: the spelling of a form. A byte may stand for itself, or behind a percent sign;
  a blank may be a plus sign.
* `Spells`: the names and values that a spelling stands for.
* `decoded_signs`: a name or a value is read as what its spelling stands for.
* `pairs_bodyText`: so a form arrives as it was filled in.
* `fieldOf`: one way to spell a name with its value.
-/

namespace PolicyDesk.FormBody

open Json (HexDigit)

/-- A hexadecimal digit as a byte. -/
def digitByte (d : HexDigit) : UInt8 := UInt8.ofNat d.char.toNat

/-- A byte of a name or a value as it is spelled. -/
inductive Sign where
  /-- A byte as it is; percent, ampersand, plus and equals signs are never spelled so. -/
  | plain (b : UInt8) (h : b ≠ 37 ∧ b ≠ 38 ∧ b ≠ 43 ∧ b ≠ 61)
  /-- A plus sign for a blank. -/
  | plus
  /-- A byte behind a percent sign. -/
  | coded (high low : HexDigit)

/-- The byte that is meant. -/
def Sign.byte : Sign → UInt8
  | plain b _ => b
  | plus => 32
  | coded high low => UInt8.ofNat (16 * high.value + low.value)

/-- The bytes that are sent. -/
def Sign.bytes : Sign → List UInt8
  | plain b _ => [b]
  | plus => [43]
  | coded high low => [37, digitByte high, digitByte low]

/-- A name and a value as they are spelled. -/
structure Field where
  name : List Sign
  value : List Sign

/-- The bytes of a name with its value. -/
def Field.bytes (f : Field) : List UInt8 := f.name.flatMap Sign.bytes ++ 61 :: f.value.flatMap Sign.bytes

/-- The body of a form. -/
def bodyText (fs : List Field) : List UInt8 := Text.joined [38] (fs.map Field.bytes)

/-- The bytes that signs stand for are those of the text. -/
def Stands (signs : List Sign) (s : String) : Prop := signs.map Sign.byte = Text.utf8 s.toList

/-- The spelling stands for these names and values, in this order. -/
def Spells (fs : List Field) (pairs : List (String × String)) : Prop :=
  List.Forall₂ (fun f p => Stands f.name p.1 ∧ Stands f.value p.2) fs pairs

/-! ## Names and values -/

theorem hexByte?_digitByte (d : HexDigit) : Text.hexByte? (digitByte d) = some d.value.val := by
  obtain ⟨value, capital⟩ := d
  revert value capital
  decide

theorem digitByte_ne (d : HexDigit) :
    digitByte d ≠ 38 ∧ digitByte d ≠ 43 ∧ digitByte d ≠ 61 := by
  obtain ⟨value, capital⟩ := d
  revert value capital
  decide

/-- No sign has an ampersand or an equals sign in it. -/
theorem Sign.not_separator (sign : Sign) : ∀ b ∈ sign.bytes, b ≠ 38 ∧ b ≠ 61 := by
  intro b hb
  cases sign with
  | plain c h =>
    rw [List.mem_singleton.mp hb]
    exact ⟨h.2.1, h.2.2.2⟩
  | plus =>
    rw [List.mem_singleton.mp hb]
    decide
  | coded high low =>
    have h := digitByte_ne high
    have l := digitByte_ne low
    simp only [Sign.bytes, List.mem_cons, List.not_mem_nil, or_false] at hb
    obtain rfl | rfl | rfl := hb
    · decide
    · exact ⟨h.1, h.2.2⟩
    · exact ⟨l.1, l.2.2⟩

theorem percentDecodeOnto_coded (high low : HexDigit) (read rest : List UInt8) :
    Text.percentDecodeOnto read (37 :: digitByte high :: digitByte low :: rest) =
      Text.percentDecodeOnto (UInt8.ofNat (16 * high.value + low.value) :: read) rest := by
  rw [Text.percentDecodeOnto, Text.bytePair?, hexByte?_digitByte, hexByte?_digitByte]

/-- A plus sign is read as a blank before percent signs are resolved. -/
def blanked (b : UInt8) : UInt8 := if b = 43 then 32 else b

theorem percentDecodeOnto_signs (read : List UInt8) (signs : List Sign) :
    Text.percentDecodeOnto read ((signs.flatMap Sign.bytes).map blanked) =
      read.reverse ++ signs.map Sign.byte := by
  induction signs generalizing read with
  | nil => simp [Text.percentDecodeOnto]
  | cons sign signs ih =>
    rw [List.flatMap_cons, List.map_append]
    cases sign with
    | plain b h =>
      have same : blanked b = b := if_neg h.2.2.1
      simp only [Sign.bytes, List.map_cons, List.map_nil, List.singleton_append, same]
      rw [Text.percentDecodeOnto_other h.1, ih]
      simp [Sign.byte]
    | plus =>
      have blank : blanked 43 = 32 := rfl
      simp only [Sign.bytes, List.map_cons, List.map_nil, List.singleton_append, blank]
      rw [Text.percentDecodeOnto_other (by decide), ih]
      simp [Sign.byte]
    | coded high low =>
      have h : blanked (digitByte high) = digitByte high := if_neg (digitByte_ne high).2.1
      have l : blanked (digitByte low) = digitByte low := if_neg (digitByte_ne low).2.1
      have percent : blanked 37 = 37 := rfl
      simp only [Sign.bytes, List.map_cons, List.map_nil, List.cons_append, List.nil_append, h, l, percent]
      rw [percentDecodeOnto_coded, ih]
      simp [Sign.byte]

/-- **A name or a value is read as what its spelling stands for.** -/
theorem decoded_signs {signs : List Sign} {s : String} (h : Stands signs s) :
    decoded (signs.flatMap Sign.bytes) = s := by
  have bytes : Text.percentDecode ((signs.flatMap Sign.bytes).map blanked) = Text.utf8 s.toList := by
    rw [Text.percentDecode, percentDecodeOnto_signs, List.reverse_nil, List.nil_append]
    exact h
  have text : decoded (signs.flatMap Sign.bytes) =
      Glyph.lossy (Glyph.ofBytes (Text.percentDecode ((signs.flatMap Sign.bytes).map blanked))) := rfl
  rw [text, bytes, Glyph.ofBytes_utf8]
  exact Glyph.lossy_ofString s

/-! ## Forms -/

theorem Sign.not_ampersand (signs : List Sign) : ∀ b ∈ signs.flatMap Sign.bytes, b ≠ 38 ∧ b ≠ 61 := by
  intro b hb
  obtain ⟨sign, -, mem⟩ := List.mem_flatMap.mp hb
  exact sign.not_separator b mem

theorem pair_bytes {f : Field} {p : String × String} (h : Stands f.name p.1 ∧ Stands f.value p.2) :
    pair f.bytes = p := by
  have split : Text.splitFirst (· == 61) f.bytes =
      (f.name.flatMap Sign.bytes, some (f.value.flatMap Sign.bytes)) :=
    Text.splitFirst_append (fun b hb => beq_false_of_ne (Sign.not_ampersand f.name b hb).2) rfl _
  unfold pair
  rw [split]
  simp only [Option.getD_some, decoded_signs h.1, decoded_signs h.2]

theorem Field.bytes_ne_nil (f : Field) : f.bytes ≠ [] := by
  simp [Field.bytes]

/-- **A form arrives as it was filled in**, however it is spelled. -/
theorem pairs_bodyText {fs : List Field} {ps : List (String × String)} (h : Spells fs ps) :
    pairs (bodyText fs) = ps := by
  have parts : (Text.pieces (· == 38) (bodyText fs)).filter (!·.isEmpty) = fs.map Field.bytes := by
    cases fs with
    | nil => rfl
    | cons f fs =>
      have apart : Text.pieces (· == 38) (bodyText (f :: fs)) = (f :: fs).map Field.bytes := by
        refine Text.pieces_joined rfl (by simp) fun p hp b hb => ?_
        obtain ⟨g, -, rfl⟩ := List.mem_map.mp hp
        apply beq_false_of_ne
        obtain hb | hb := List.mem_append.mp hb
        · exact (Sign.not_ampersand g.name b hb).1
        · obtain rfl | hb := List.mem_cons.mp hb
          · decide
          · exact (Sign.not_ampersand g.value b hb).1
      rw [apart, List.filter_eq_self]
      intro p hp
      obtain ⟨g, -, rfl⟩ := List.mem_map.mp hp
      simpa using g.bytes_ne_nil
  have each : (fs.map Field.bytes).map pair = ps := by
    clear parts
    induction h with
    | nil => rfl
    | cons first _ ih => rw [List.map_cons, List.map_cons, pair_bytes first, ih]
  rw [pairs, parts, each]

/-! ## One way to spell a form -/

/-- A byte as it is where that is allowed, and behind a percent sign elsewhere. -/
def signOf (b : UInt8) : Sign :=
  if h : b ≠ 37 ∧ b ≠ 38 ∧ b ≠ 43 ∧ b ≠ 61 then .plain b h
  else .coded ⟨⟨b.toNat / 16, by have := b.toNat_lt; omega⟩, true⟩ ⟨⟨b.toNat % 16, by omega⟩, true⟩

/-- A name and a value spelled byte by byte. -/
def fieldOf (p : String × String) : Field :=
  ⟨(Text.utf8 p.1.toList).map signOf, (Text.utf8 p.2.toList).map signOf⟩

theorem byte_signOf (b : UInt8) : (signOf b).byte = b := by
  unfold signOf
  split
  · rfl
  · have value : 16 * (b.toNat / 16) + b.toNat % 16 = b.toNat := by omega
    rw [Sign.byte, value, UInt8.ofNat_toNat]

/-- Every form can be spelled. -/
theorem spells_fieldOf (ps : List (String × String)) : Spells (ps.map fieldOf) ps := by
  have stands : ∀ s : String, Stands ((Text.utf8 s.toList).map signOf) s := by
    intro s
    have same : Sign.byte ∘ signOf = id := funext byte_signOf
    rw [Stands, List.map_map, same, List.map_id]
  induction ps with
  | nil => exact .nil
  | cons p ps ih => exact .cons ⟨stands p.1, stands p.2⟩ ih

end PolicyDesk.FormBody
