import PolicyDesk.Proofs.Address.Authority
import PolicyDesk.Proofs.Address.Path
import PolicyDesk.Proofs.Text.Blank

/-!
# Addresses are read as they are written

* `Url.Normal`: an address in which nothing reserved is left. `Address.read_normal`: what is read has this form.
* `Address.read_origin_append`: scheme, user, host and port are read as they are written, whatever path, query and
  fragment follow.
* `Address.read_text`: an address in this form is read back.
* `Url.text_injective`: so such addresses are told apart by their texts.
-/

namespace PolicyDesk

open Text (Unreserved natural percentEncode)

/-! ## Characters of addresses -/

/-- An ASCII character that can be seen. Addresses are written in no others. -/
def IsVisible (c : Char) : Prop := 0x20 < c.toNat ∧ c.toNat < 0x7F

instance : DecidablePred IsVisible := fun c => inferInstanceAs (Decidable (0x20 < c.toNat ∧ c.toNat < 0x7F))

theorem isBlank_of_isVisible {c : Char} (h : IsVisible c) : Text.isBlank c = false := by
  obtain ⟨low, high⟩ := h
  simp only [Text.isBlank, Bool.or_eq_false_iff, Bool.and_eq_false_iff, decide_eq_false_iff_not, beq_eq_false_iff_ne]
  omega

theorem isVisible_of_unreserved {reserved : Char → Bool} (low : ∀ n < 0x21, reserved (Char.ofNat n) = true)
    {c : Char} (h : Unreserved reserved c) : IsVisible c := by
  refine ⟨Nat.lt_of_not_le fun small => ?_, h.1⟩
  have blank := low c.toNat (by omega)
  rw [Char.ofNat_toNat, h.2] at blank
  cases blank

theorem isVisible_of_isSign {c : Char} (h : Host.IsSign c) : IsVisible c := by
  have known := h.allowed
  have ascii := h.ascii
  simp only [Host.isForbidden, Bool.or_eq_false_iff, decide_eq_false_iff_not, beq_eq_false_iff_ne] at known
  exact ⟨by omega, by omega⟩

/-! ## Addresses in normal form -/

namespace Url

/-- An address in which nothing reserved is left, and whose port has to be named. -/
structure Normal [InternationalNames] (u : Url) : Prop where
  user : ∀ c ∈ u.user, Unreserved Reserved.inUser c
  password : ∀ c ∈ u.password, Unreserved Reserved.inUser c
  host : u.host.Normal
  port : ∀ n ∈ u.port, n < 65536 ∧ n ≠ u.scheme.defaultPort
  path : u.path.Normal
  query : ∀ s ∈ u.query, ∀ c ∈ s, Unreserved Reserved.inQuery c
  fragment : ∀ s ∈ u.fragment, ∀ c ∈ s, Unreserved Reserved.inFragment c

/-- Host and port. -/
def place (u : Url) : List Char := u.host.text ++ behind ':' (u.port.map natural)

/-- User, host and port. -/
def authority (u : Url) : List Char := u.userText ++ u.place

/-- The user, and the password if there is one. -/
def named (u : Url) : List Char := if u.password.isEmpty then u.user else u.user ++ ':' :: u.password

/-- Everything before the path. -/
def origin (u : Url) : List Char := u.scheme.name.toList ++ ':' :: '/' :: '/' :: u.authority

theorem text_eq (u : Url) :
    u.text = u.origin ++ u.path.text ++ behind '?' u.query ++ behind '#' u.fragment := by
  simp [text, origin, authority, place]

/-- The text with another path, query and fragment. -/
theorem text_with (u : Url) (path : WebPath) (query fragment : Option (List Char)) :
    text { u with path, query, fragment } =
      u.origin ++ path.text ++ behind '?' query ++ behind '#' fragment := text_eq _

theorem forall_behind {P : Char → Prop} {mark : Char} {part : Option (List Char)} (atMark : P mark)
    (h : ∀ s ∈ part, ∀ c ∈ s, P c) : ∀ c ∈ behind mark part, P c := by
  cases part with
  | none => exact fun c hc => by cases hc
  | some s => exact List.forall_mem_cons.mpr ⟨atMark, h s rfl⟩

/-- A text with what may be absent behind it is split at the mark. -/
theorem splitFirst_behind {isSeparator : Char → Bool} {s : List Char} {mark : Char}
    (h : ∀ c ∈ s, isSeparator c = false) (hx : isSeparator mark = true) (part : Option (List Char)) :
    Text.splitFirst isSeparator (s ++ behind mark part) = (s, part) := by
  cases part with
  | none => rw [behind, List.append_nil, Text.splitFirst_of_none h]
  | some t => exact Text.splitFirst_append h hx t

theorem map_percentEncode {reserved : Char → Bool} {part : Option (List Char)}
    (h : ∀ s ∈ part, ∀ c ∈ s, Unreserved reserved c) : part.map (percentEncode reserved) = part := by
  cases part with
  | none => rfl
  | some s => exact congrArg some (Text.percentEncode_eq_self (h s rfl))

variable [InternationalNames] {u : Url}

/-- What holds of the characters of a host, and of colons and brackets, holds of host and port. -/
theorem Normal.forall_place {P : Char → Prop} (h : u.Normal) (sign : ∀ c, Host.IsSign c → P c) (colon : P ':')
    (openBracket : P '[') (closeBracket : P ']') : ∀ c ∈ u.place, P c := by
  refine List.forall_mem_append.mpr ⟨h.host.forall_text sign colon openBracket closeBracket, ?_⟩
  cases u.port with
  | none => exact fun c hc => by cases hc
  | some n =>
    exact List.forall_mem_cons.mpr ⟨colon, fun c hc => sign c (Host.isSign_of_isDigit (Text.natural_isDigit n c hc))⟩

/-- What holds of the characters of a user, too, and of at signs, holds of all that stands before the path. -/
theorem Normal.forall_authority {P : Char → Prop} (h : u.Normal) (user : ∀ c, Unreserved Reserved.inUser c → P c)
    (sign : ∀ c, Host.IsSign c → P c) (marks : P ':' ∧ P '@' ∧ P '[' ∧ P ']') : ∀ c ∈ u.authority, P c := by
  obtain ⟨colon, atMark, openBracket, closeBracket⟩ := marks
  refine List.forall_mem_append.mpr ⟨?_, h.forall_place sign colon openBracket closeBracket⟩
  have atSign : ∀ c ∈ ['@'], P c := List.forall_mem_singleton.mpr atMark
  have first : ∀ c ∈ u.user, P c := fun c hc => user c (h.user c hc)
  have second : ∀ c ∈ u.password, P c := fun c hc => user c (h.password c hc)
  unfold userText
  split
  · exact fun c hc => by cases hc
  · split
    · exact List.forall_mem_append.mpr ⟨first, atSign⟩
    · exact List.forall_mem_append.mpr
        ⟨first, List.forall_mem_cons.mpr ⟨colon, List.forall_mem_append.mpr ⟨second, atSign⟩⟩⟩

theorem Normal.authority_isVisible (h : u.Normal) : ∀ c ∈ u.authority, IsVisible c :=
  h.forall_authority (fun _ => isVisible_of_unreserved (by decide)) (fun _ => isVisible_of_isSign) (by decide)

theorem Normal.origin_isVisible (h : u.Normal) : ∀ c ∈ u.origin, IsVisible c := by
  have scheme : u.scheme.name.toList.all (fun c => decide (IsVisible c)) = true := by
    cases u.scheme <;> rfl
  have mark : IsVisible ':' ∧ IsVisible '/' := by decide
  refine List.forall_mem_append.mpr ⟨fun c hc => ?_, List.forall_mem_cons.mpr ⟨mark.1, List.forall_mem_cons.mpr
    ⟨mark.2, List.forall_mem_cons.mpr ⟨mark.2, h.authority_isVisible⟩⟩⟩⟩
  exact of_decide_eq_true (List.all_eq_true.mp scheme c hc)

/-- Nothing before the path ends this part. -/
theorem Normal.authority_inside (h : u.Normal) : ∀ c ∈ u.authority, Address.endsAuthority c = false := by
  have inside : ∀ c : Char, c ≠ '/' ∧ c ≠ '\\' ∧ c ≠ '?' ∧ c ≠ '#' → Address.endsAuthority c = false := by
    rintro c ⟨slash, backslash, question, number⟩
    simp [Address.endsAuthority, WebPath.isSlash, slash, backslash, question, number]
  refine h.forall_authority (fun c hc => inside c ?_) (fun c hc => inside c ?_) (by decide)
  · exact ⟨hc.ne (by decide), hc.ne (by decide), hc.ne (by decide), hc.ne (by decide)⟩
  · exact ⟨hc.ne_of_isForbidden (by decide), hc.ne_of_isForbidden (by decide), hc.ne_of_isForbidden (by decide),
      hc.ne_of_isForbidden (by decide)⟩

theorem Normal.splitUser_authority (h : u.Normal) : Address.splitUser u.authority = (u.named, u.place) := by
  have place : ∀ c ∈ u.place, c ≠ '@' :=
    h.forall_place (fun c hc => hc.ne_of_isForbidden (by decide)) (by decide) (by decide) (by decide)
  by_cases anonymous : u.user = [] ∧ u.password = []
  · obtain ⟨noUser, noPassword⟩ := anonymous
    rw [authority, show u.userText = [] by simp [userText, noUser, noPassword], List.nil_append,
      Address.splitUser_of_none place, named, noUser, noPassword]
    rfl
  · have text : u.userText = u.named ++ ['@'] := by
      unfold userText named
      rw [if_neg (by simpa using anonymous)]
      split <;> simp
    rw [authority, text, List.append_assoc, List.singleton_append, Address.splitUser_append place]

theorem Normal.splitFirst_named (h : u.Normal) :
    Text.splitFirst (· == ':') u.named = (u.user, if u.password.isEmpty then none else some u.password) := by
  have user : ∀ c ∈ u.user, (c == ':') = false := fun c hc =>
    beq_eq_false_iff_ne.mpr ((h.user c hc).ne (by decide))
  unfold named
  split
  · exact Text.splitFirst_of_none user
  · exact Text.splitFirst_append user (beq_self_eq_true ':') u.password

theorem Normal.splitHost_place (h : u.Normal) :
    Address.splitHost false u.place = (u.host.text, u.port.map natural) := by
  rw [place, Address.splitHost_text h.host]
  cases u.port with
  | none => simp [behind, Address.splitHost]
  | some n => simp [behind, Address.splitHost]

/-- **User, host and port are taken apart** as they were put together. -/
theorem Normal.ofText_authority (h : u.Normal) :
    Address.Authority.ofText u.authority = ⟨u.user, u.password, u.host.text, u.port.map natural⟩ := by
  have password : (if u.password.isEmpty then none else some u.password).getD [] = u.password := by
    split
    · rename_i none
      exact (List.isEmpty_iff.mp none).symm
    · rfl
  unfold Address.Authority.ofText
  simp only [h.splitUser_authority, h.splitFirst_named, h.splitHost_place, password,
    Text.percentEncode_eq_self h.user, Text.percentEncode_eq_self h.password]

theorem Normal.authority_ne_nil (h : u.Normal) : u.authority ≠ [] := fun none =>
  h.host.text_ne_nil (List.append_eq_nil_iff.mp (List.append_eq_nil_iff.mp none).2).1

theorem Normal.readPlace_authority (h : u.Normal) :
    Address.readPlace u.scheme.defaultPort ⟨u.user, u.password, u.host.text, u.port.map natural⟩ =
      .ok (u.host, u.port) := by
  refine Address.readPlace_eq_ok.mpr ⟨h.host.text_ne_nil, Host.read_text h.host, ?_⟩
  · cases port : u.port with
    | none => rfl
    | some n =>
      obtain ⟨small, named⟩ := h.port n port
      rw [Option.map_some, Address.readPort_natural small, if_neg]
      exact fun same => named (Option.some.inj same).symm

/-- Nothing that is not visible is written behind the origin. -/
theorem Normal.append_isVisible (h : u.Normal) {p : List Char} {query fragment : Option (List Char)}
    (path : ∀ c ∈ p, Unreserved Reserved.inPath c)
    (hq : ∀ s ∈ query, ∀ c ∈ s, Unreserved Reserved.inQuery c)
    (hf : ∀ s ∈ fragment, ∀ c ∈ s, Unreserved Reserved.inFragment c) :
    ∀ c ∈ u.origin ++ p ++ behind '?' query ++ behind '#' fragment, IsVisible c := by
  have marks : IsVisible '?' ∧ IsVisible '#' := by decide
  have query := forall_behind marks.1 fun s hs c hc => isVisible_of_unreserved (by decide) (hq s hs c hc)
  have fragment := forall_behind marks.2 fun s hs c hc => isVisible_of_unreserved (by decide) (hf s hs c hc)
  have path : ∀ c ∈ p, IsVisible c := fun c hc => isVisible_of_unreserved (by decide) (path c hc)
  exact List.forall_mem_append.mpr ⟨List.forall_mem_append.mpr
    ⟨List.forall_mem_append.mpr ⟨h.origin_isVisible, path⟩, query⟩, fragment⟩

theorem Normal.path_unreserved (h : u.Normal) : ∀ c ∈ u.path.text, Unreserved Reserved.inPath c :=
  h.path.forall_text (by decide) fun _ hc _ => hc

/-- Nothing that is not visible is in the text of an address. -/
theorem Normal.text_isVisible (h : u.Normal) : ∀ c ∈ u.text, IsVisible c := by
  rw [text_eq]
  exact h.append_isVisible h.path_unreserved h.query h.fragment

end Url

namespace Address

variable [InternationalNames] {u : Url} {s t : List Char}

/-! ## What is read is in normal form -/

theorem readWeb_normal {scheme : Scheme} (ok : readWeb scheme s = .ok u) : u.Normal := by
  unfold readWeb at ok
  simp only [bind, Except.bind, pure, Except.pure] at ok
  split at ok
  · cases ok
  · rename_i place known
    obtain ⟨-, host, port⟩ := readPlace_eq_ok.mp known
    cases ok
    refine ⟨?_, ?_, Host.read_normal host, ?_, WebPath.read_normal _, ?_, ?_⟩
    · exact Text.percentEncode_unreserved (by decide) _
    · exact Text.percentEncode_unreserved (by decide) _
    · intro n hn
      obtain ⟨small, other⟩ := readPort_bounds port n hn
      exact ⟨small, fun same => other (same ▸ rfl)⟩
    · intro q hq
      obtain ⟨r, -, rfl⟩ := Option.map_eq_some_iff.mp hq
      exact Text.percentEncode_unreserved (by decide) r
    · intro f hf
      obtain ⟨r, -, rfl⟩ := Option.map_eq_some_iff.mp hf
      exact Text.percentEncode_unreserved (by decide) r

omit [InternationalNames] in
theorem map_other_ne_web (checked : Except AddressFault Unit) (name : String) :
    checked.map (fun _ => other name) ≠ .ok (.web u) := by
  cases checked <;> simp [Except.map]

/-- A web address is read from behind its scheme. -/
theorem read_eq_ok (ok : read s = .ok (.web u)) :
    ∃ name rest scheme, scheme? (cleaned s) = some (name, rest) ∧ readWeb scheme rest = .ok u := by
  unfold read at ok
  split at ok
  · cases ok
  · rename_i name rest known
    split at ok
    · rename_i scheme _
      cases web : readWeb scheme rest with
      | error f =>
        rw [web] at ok
        cases ok
      | ok v =>
        rw [web] at ok
        cases ok
        exact ⟨name, rest, scheme, known, web⟩
    all_goals exact absurd ok (map_other_ne_web _ _)

/-- **What is read is in normal form.** -/
theorem read_normal (ok : read s = .ok (.web u)) : u.Normal := by
  obtain ⟨_, _, _, -, web⟩ := read_eq_ok ok
  exact readWeb_normal web

/-! ## What is in normal form is read back -/

omit [InternationalNames] in
theorem cleaned_eq_self (h : ∀ c ∈ s, 0x20 < c.toNat) : cleaned s = s := by
  have keep : ∀ t : List Char, (∀ c ∈ t, 0x20 < c.toNat) → t.dropWhile (fun c => decide (c.toNat ≤ 0x20)) = t := by
    intro t ht
    cases t with
    | nil => rfl
    | cons c t => exact List.dropWhile_cons_of_neg (by simpa using ht c List.mem_cons_self)
  unfold cleaned
  simp only
  rw [keep s h, keep s.reverse fun c hc => h c (List.mem_reverse.mp hc), List.reverse_reverse, List.filter_eq_self]
  intro c hc
  have visible := h c hc
  have ne : ∀ d : Char, d.toNat ≤ 0x20 → (c != d) = true := by
    rintro d low
    refine bne_iff_ne.mpr ?_
    rintro rfl
    omega
  rw [ne '\t' (by decide), ne '\n' (by decide), ne '\r' (by decide)]
  rfl

omit [InternationalNames] in
/-- The scheme of a web address is read as it is written. -/
theorem scheme?_web (scheme : Scheme) (s : List Char) :
    scheme? (scheme.name.toList ++ ':' :: s) = some (scheme.name, s) := by
  cases scheme <;> rfl

omit [InternationalNames] in
theorem ofName_web (scheme : Scheme) : SchemeKind.ofName scheme.name = .web scheme := by
  cases scheme <;> rfl

/-- What stands before the path is read as it is written, whatever follows it. -/
theorem readWeb_authority_append (h : u.Normal) (boundary : ∀ c ∈ t.head?, endsAuthority c = true) :
    readWeb u.scheme ('/' :: '/' :: (u.authority ++ t)) =
      let (t, fragment) := Text.splitFirst (· == '#') t
      let (t, query) := Text.splitFirst (· == '?') t
      .ok { u with
        path := WebPath.read t
        query := query.map (percentEncode Reserved.inQuery)
        fragment := fragment.map (percentEncode Reserved.inFragment) } := by
  have inside : ∀ c ∈ u.authority, (!endsAuthority c) = true := by
    intro c hc
    rw [h.authority_inside c hc]
    rfl
  have slashes : ('/' :: '/' :: (u.authority ++ t)).dropWhile WebPath.isSlash = u.authority ++ t := by
    cases known : u.authority with
    | nil => exact absurd known h.authority_ne_nil
    | cons c a =>
      have ends := h.authority_inside c (known ▸ List.mem_cons_self)
      simp only [endsAuthority, Bool.or_eq_false_iff] at ends
      change (c :: (a ++ t)).dropWhile WebPath.isSlash = c :: (a ++ t)
      exact List.dropWhile_cons_of_neg (by simp [ends.1.1])
  have stop : t.takeWhile (!endsAuthority ·) = [] ∧ t.dropWhile (!endsAuthority ·) = t := by
    cases t with
    | nil => exact ⟨rfl, rfl⟩
    | cons c t => simp [boundary c rfl]
  unfold readWeb
  simp only [slashes, List.takeWhile_append_of_pos inside, List.dropWhile_append_of_pos inside, stop.1, stop.2,
    List.append_nil, h.ofText_authority]
  rw [h.readPlace_authority]
  rfl

/-- **What stands before the path is read as it is written**, whatever path, query and fragment follow. -/
theorem read_origin_append (h : u.Normal) {p : List Char} {query fragment : Option (List Char)}
    (starts : ∀ c ∈ p.head?, c = '/') (path : ∀ c ∈ p, Unreserved Reserved.inPath c)
    (hq : ∀ s ∈ query, ∀ c ∈ s, Unreserved Reserved.inQuery c)
    (hf : ∀ s ∈ fragment, ∀ c ∈ s, Unreserved Reserved.inFragment c) :
    read (u.origin ++ p ++ Url.behind '?' query ++ Url.behind '#' fragment) =
      .ok (.web { u with path := WebPath.read p, query, fragment }) := by
  have visible := h.append_isVisible path hq hf
  have noNumber : ∀ c ∈ p ++ Url.behind '?' query, (c == '#') = false := by
    refine List.forall_mem_append.mpr ⟨fun c hc => ?_, Url.forall_behind rfl fun s hs c hc => ?_⟩
    · exact beq_eq_false_iff_ne.mpr ((path c hc).ne (by decide))
    · exact beq_eq_false_iff_ne.mpr ((hq s hs c hc).ne (by decide))
  have noQuestion : ∀ c ∈ p, (c == '?') = false := fun c hc =>
    beq_eq_false_iff_ne.mpr ((path c hc).ne (by decide))
  have boundary : ∀ c ∈ (p ++ Url.behind '?' query ++ Url.behind '#' fragment).head?, endsAuthority c = true := by
    intro c hc
    cases p with
    | cons d p =>
      cases hc
      rw [starts c rfl]
      rfl
    | nil =>
      cases query with
      | some q =>
        cases hc
        rfl
      | none =>
        cases fragment with
        | some f =>
          cases hc
          rfl
        | none => cases hc
  have parts : u.origin ++ p ++ Url.behind '?' query ++ Url.behind '#' fragment =
      u.scheme.name.toList ++ ':' :: '/' :: '/' ::
        (u.authority ++ (p ++ Url.behind '?' query ++ Url.behind '#' fragment)) := by
    simp [Url.origin]
  rw [read, cleaned_eq_self fun c hc => (visible c hc).1, parts, scheme?_web]
  simp only [ofName_web]
  rw [readWeb_authority_append h boundary, Url.splitFirst_behind noNumber (beq_self_eq_true '#')]
  simp only [Url.splitFirst_behind noQuestion (beq_self_eq_true '?'), Url.map_percentEncode hq,
    Url.map_percentEncode hf]
  rfl

/-- **What is in normal form is read as it is written.** -/
theorem read_text (h : u.Normal) : read u.text = .ok (.web u) := by
  have starts : ∀ c ∈ u.path.text.head?, c = '/' := fun c hc => (Option.some.inj hc).symm
  rw [Url.text_eq, read_origin_append h starts h.path_unreserved h.query h.fragment, WebPath.read_text h.path]

end Address

/-- Addresses in normal form are told apart by their texts. -/
theorem Url.text_injective [InternationalNames] {u v : Url} (hu : u.Normal) (hv : v.Normal)
    (same : u.text = v.text) : u = v := by
  have read := Address.read_text hu
  rw [same, Address.read_text hv] at read
  cases read
  rfl

end PolicyDesk
