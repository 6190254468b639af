import Mathlib.Data.List.DropRight
import PolicyDesk.Proofs.Address.Normal

/-!
# Slashes behind an address

* `spelledPath`, `spelledQuery`, `spelledFragment`: the parts of a text that path, query and fragment are read from.
  `read_parts`: what is made of them.
* `behindPlace_append`: slashes behind an address end up behind its last part. `same_parts_iff`: so dropping them
  changes query or fragment exactly if there is one of them.
* `read_dropSlashes_iff`: an address in normal form is still the same without the slashes at its end exactly if
  there are none, or if they are all of its path.
-/

namespace PolicyDesk.Address

open Text (percentEncode splitFirst)

variable {s t : List Char} {u v : Url}

/-! ## Spelled parts -/

/-- What stands behind user, host and port, from behind the scheme. -/
def afterPlace (s : List Char) : List Char := (s.dropWhile WebPath.isSlash).dropWhile (!endsAuthority ·)

/-- What stands behind user, host and port. -/
def behindPlace (s : List Char) : List Char :=
  match scheme? (cleaned s) with
  | none => []
  | some (_, rest) => afterPlace rest

/-- The fragment as it is spelled. -/
def spelledFragment (s : List Char) : Option (List Char) := (splitFirst (· == '#') (behindPlace s)).2

/-- The query as it is spelled. -/
def spelledQuery (s : List Char) : Option (List Char) :=
  (splitFirst (· == '?') (splitFirst (· == '#') (behindPlace s)).1).2

/-- The path as it is spelled. -/
def spelledPath (s : List Char) : List Char := (splitFirst (· == '?') (splitFirst (· == '#') (behindPlace s)).1).1

/-- **What is made of the parts.** -/
theorem read_parts [InternationalNames] (ok : read s = .ok (.web u)) :
    u.path = WebPath.read (spelledPath s) ∧ u.query = (spelledQuery s).map (percentEncode Reserved.inQuery) ∧
      u.fragment = (spelledFragment s).map (percentEncode Reserved.inFragment) := by
  obtain ⟨name, rest, scheme, known, web⟩ := read_eq_ok ok
  have behind : behindPlace s = (rest.dropWhile WebPath.isSlash).dropWhile (!endsAuthority ·) := by
    rw [behindPlace, known]
    rfl
  unfold readWeb at web
  simp only [bind, Except.bind, pure, Except.pure] at web
  split at web
  · cases web
  · cases web
    rw [spelledPath, spelledQuery, spelledFragment, behind]
    exact ⟨rfl, rfl, rfl⟩

/-! ## Slashes behind an address -/

theorem dropWhile_append_of_ne_nil {p : Char → Bool} (h : s.dropWhile p ≠ []) (t : List Char) :
    (s ++ t).dropWhile p = s.dropWhile p ++ t := by
  rw [List.dropWhile_append, if_neg (by simpa using h)]

/-- A control or a blank, which is not kept at the end of a text. -/
def isLow (c : Char) : Bool := c.toNat ≤ 0x20

theorem cleaned_eq (s : List Char) :
    cleaned s = ((s.dropWhile isLow).rdropWhile isLow).filter fun c => c != '\t' && c != '\n' && c != '\r' := rfl

/-- What cleaning keeps of slashes behind a text, and of controls and blanks before them. -/
theorem cleaned_append (some : s.dropWhile isLow ≠ []) (slashes : ∀ c ∈ t, c = '/') (ends : t ≠ []) :
    ∃ x, (∀ c ∈ x, c = '/' ∨ isLow c = true) ∧ '/' ∈ x ∧ cleaned (s ++ t) = cleaned s ++ x := by
  generalize kept : s.dropWhile isLow = a at some
  have whole : (a ++ t).rdropWhile isLow = a ++ t := by
    refine List.rdropWhile_eq_self_iff.mpr fun some => ?_
    rw [List.getLast_append_of_ne_nil some ends, slashes _ (List.getLast_mem ends)]
    decide
  refine ⟨(a.rtakeWhile isLow ++ t).filter fun c => c != '\t' && c != '\n' && c != '\r', ?_, ?_, ?_⟩
  · intro c hc
    obtain before | behind := List.mem_append.mp (List.mem_filter.mp hc).1
    · exact .inr (List.mem_rtakeWhile_imp before)
    · exact .inl (slashes c behind)
  · obtain ⟨c, hc⟩ := List.exists_mem_of_ne_nil t ends
    obtain rfl := slashes c hc
    exact List.mem_filter.mpr ⟨List.mem_append_right _ hc, rfl⟩
  · rw [cleaned_eq, cleaned_eq, dropWhile_append_of_ne_nil (kept ▸ some), kept, whole, ← List.filter_append,
      ← List.append_assoc, List.rdropWhile_append_rtakeWhile]

/-- A scheme needs a character that is kept. -/
theorem dropWhile_isLow_ne_nil {r : String × List Char} (h : scheme? (cleaned s) = some r) :
    s.dropWhile isLow ≠ [] := by
  intro none
  rw [cleaned_eq, none] at h
  cases h

/-- What stands behind the first colon is not looked at for the scheme. -/
theorem scheme?_append {name : String} {rest : List Char} (h : scheme? s = some (name, rest)) (t : List Char) :
    scheme? (s ++ t) = some (name, rest ++ t) := by
  unfold scheme? at h ⊢
  simp only at h ⊢
  -- which characters a scheme has does not matter, only that the colon is none of them
  generalize isPart : (fun c : Char => c.isAlphanum || c == '+' || c == '-' || c == '.') = p at h ⊢
  split at h
  · rename_i c front behind before after
    have colon : p ':' = false := by
      rw [← isPart]
      rfl
    have parts : s = (c :: front) ++ ':' :: behind := by
      rw [← before, ← after, List.takeWhile_append_dropWhile]
    have all : ∀ d ∈ c :: front, p d = true := by
      rw [← before]
      exact fun d hd => List.mem_takeWhile_imp hd
    have before : (s ++ t).takeWhile p = c :: front := by
      rw [parts, List.append_assoc, List.takeWhile_append_of_pos all]
      simp [colon]
    have after : (s ++ t).dropWhile p = ':' :: (behind ++ t) := by
      rw [parts, List.append_assoc, List.dropWhile_append_of_pos all]
      simp [colon]
    rw [before, after]
    simp only
    split at h
    · rename_i letter
      cases h
      rw [if_pos letter]
    · cases h
  · cases h

/-- Behind the slashes in front of it stands the host. -/
theorem dropWhile_isSlash_ne_nil [InternationalNames] {scheme : Scheme} (ok : readWeb scheme s = .ok u) :
    s.dropWhile WebPath.isSlash ≠ [] := by
  intro none
  unfold readWeb at ok
  rw [none] at ok
  cases ok

theorem afterPlace_append [InternationalNames] {scheme : Scheme} (ok : readWeb scheme s = .ok u)
    (plain : ∀ c ∈ t, c = '/' ∨ isLow c = true) (slash : '/' ∈ t) :
    ∃ y, (∀ c ∈ y, c = '/' ∨ isLow c = true) ∧ y ≠ [] ∧ afterPlace (s ++ t) = afterPlace s ++ y := by
  rw [afterPlace, afterPlace, dropWhile_append_of_ne_nil (dropWhile_isSlash_ne_nil ok)]
  generalize s.dropWhile WebPath.isSlash = r
  by_cases none : r.dropWhile (!endsAuthority ·) = []
  · refine ⟨t.dropWhile (!endsAuthority ·), fun c hc => plain c (List.dropWhile_subset _ hc), fun all => ?_, ?_⟩
    · have inside := List.dropWhile_eq_nil_iff.mp all '/' slash
      cases inside
    · rw [List.dropWhile_append, none]
      rfl
  · exact ⟨t, plain, List.ne_nil_of_mem slash, dropWhile_append_of_ne_nil none t⟩

/-- **Slashes behind an address** end up behind its last part, together with controls and blanks before them. -/
theorem behindPlace_append [InternationalNames] (ok : read s = .ok (.web u)) (slashes : ∀ c ∈ t, c = '/')
    (ends : t ≠ []) :
    ∃ y, (∀ c ∈ y, c = '/' ∨ isLow c = true) ∧ y ≠ [] ∧ behindPlace (s ++ t) = behindPlace s ++ y := by
  obtain ⟨name, rest, scheme, known, web⟩ := read_eq_ok ok
  obtain ⟨x, plain, slash, text⟩ := cleaned_append (dropWhile_isLow_ne_nil known) slashes ends
  obtain ⟨y, plain, some, after⟩ := afterPlace_append web plain slash
  refine ⟨y, plain, some, ?_⟩
  rw [behindPlace, behindPlace, text, scheme?_append known, known]
  exact after

theorem percentEncode_append_ne {reserved : Char → Bool} {q y : List Char} (some : y ≠ []) :
    percentEncode reserved q ≠ percentEncode reserved (q ++ y) := by
  intro same
  rw [Text.percentEncode_append] at same
  exact some (Text.percentEncode_eq_nil_iff.mp (List.append_right_eq_self.mp same.symm))

/-- **Slashes behind an address are part of its query or its fragment**, if there is one of them. -/
theorem same_parts_iff [InternationalNames] (hu : read s = .ok (.web u)) (slashes : ∀ c ∈ t, c = '/')
    (ends : t ≠ []) (hv : read (s ++ t) = .ok (.web v)) :
    u.query = v.query ∧ u.fragment = v.fragment ↔ v.query = none ∧ v.fragment = none := by
  obtain ⟨y, plain, some, behind⟩ := behindPlace_append hu slashes ends
  have other : ∀ mark : Char, mark ≠ '/' → isLow mark = false → ∀ c ∈ y, (c == mark) = false := by
    intro mark noSlash high c hc
    refine beq_eq_false_iff_ne.mpr ?_
    rintro rfl
    obtain slash | low := plain c hc
    · exact noSlash slash
    · rw [high] at low
      cases low
  obtain ⟨-, queryU, fragmentU⟩ := read_parts hu
  obtain ⟨-, queryV, fragmentV⟩ := read_parts hv
  rw [queryU, queryV, fragmentU, fragmentV, spelledQuery, spelledQuery, spelledFragment, spelledFragment, behind,
    Text.splitFirst_append_right _ (other '#' (by decide) rfl)]
  -- the part that comes last got longer by `y`, and what is written for it did, too
  obtain ⟨front, fragment⟩ := splitFirst (· == '#') (behindPlace s)
  cases fragment with
  | some f => simp [percentEncode_append_ne some]
  | none =>
    simp only [Text.splitFirst_append_right _ (other '?' (by decide) rfl)]
    obtain ⟨path, query⟩ := splitFirst (· == '?') front
    cases query with
    | some q => simp [percentEncode_append_ne some]
    | none => simp

/-! ## Slashes dropped from the end -/

/-- The text without the slashes at its end. -/
def dropSlashes (s : List Char) : List Char := s.rdropWhile (· == '/')

theorem dropSlashes_concat (s : List Char) (c : Char) :
    dropSlashes (s ++ [c]) = if c = '/' then dropSlashes s else s ++ [c] := by
  simp [dropSlashes, List.rdropWhile_concat]

theorem dropSlashes_eq_self_iff : dropSlashes s = s ↔ s.getLast? ≠ some '/' := by
  rw [dropSlashes, List.rdropWhile_eq_self_iff]
  cases s using List.reverseRecOn with
  | nil => simp
  | append_singleton s c => simp

/-- Behind something else no slashes are dropped but those that follow it. -/
theorem dropSlashes_append (h : s.getLast? ≠ some '/') (t : List Char) :
    dropSlashes (s ++ t) = s ++ dropSlashes t := by
  induction t using List.reverseRecOn with
  | nil =>
    rw [List.append_nil, dropSlashes_eq_self_iff.mpr h]
    exact (List.append_nil s).symm
  | append_singleton t c ih =>
    rw [← List.append_assoc, dropSlashes_concat, dropSlashes_concat]
    split
    · exact ih
    · exact List.append_assoc s t [c]

/-- What is left of a path without the slashes at its end is nothing or a path of plain pieces. The induction is on
    the folders from the last one on, of which the empty ones are dropped. -/
theorem dropSlashes_path {p : WebPath} (h : p.Normal) :
    dropSlashes p.text = [] ∨ ∃ q : WebPath, q.Normal ∧ dropSlashes p.text = q.text := by
  by_cases slash : p.text.getLast? = some '/'
  swap
  · exact .inr ⟨p, h, dropSlashes_eq_self_iff.mpr slash⟩
  obtain ⟨folders, leaf⟩ := p
  obtain rfl := (WebPath.text_ends_in_slash_iff h).mp slash
  clear slash
  induction folders using List.reverseRecOn with
  | nil => exact .inl rfl
  | append_singleton folders last ih =>
    obtain ⟨others, plain⟩ := List.forall_mem_append.mp h.folders
    have text : WebPath.text ⟨folders ++ [last], []⟩ = WebPath.text ⟨folders, last⟩ ++ ['/'] := by
      simp [WebPath.text]
    rw [text, dropSlashes_concat, if_pos rfl]
    by_cases none : last = []
    · subst none
      exact ih ⟨others, WebPath.isPlain_nil⟩
    · have normal : WebPath.Normal ⟨folders, last⟩ := ⟨others, List.forall_mem_singleton.mp plain⟩
      refine .inr ⟨⟨folders, last⟩, normal, dropSlashes_eq_self_iff.mpr fun slash => none ?_⟩
      exact (WebPath.text_ends_in_slash_iff normal).mp slash

theorem forall_mem_none {α : Type} {P : α → Prop} : ∀ a ∈ (none : Option α), P a := fun a h =>
  absurd h (Option.not_mem_none a)

theorem forall_dropSlashes {P : Char → Prop} (h : ∀ c ∈ s, P c) : ∀ c ∈ dropSlashes s, P c :=
  fun c hc => h c ((List.rdropWhile_prefix _ _).subset hc)

variable [InternationalNames]

theorem origin_getLast?_ne (h : u.Normal) : u.origin.getLast? ≠ some '/' := by
  intro slash
  have parts : u.origin = (u.scheme.name.toList ++ [':', '/', '/']) ++ u.authority := by simp [Url.origin]
  have last : u.authority.getLast? = some '/' := by
    rwa [parts, List.getLast?_append_of_ne_nil _ h.authority_ne_nil] at slash
  have inside := h.authority_inside '/' (List.mem_of_getLast? last)
  cases inside

/-- **What is left of an address** without the slashes at its end is an address in normal form, or nothing is left
    behind the host. -/
theorem dropSlashes_text (h : u.Normal) :
    (∃ v : Url, v.Normal ∧ dropSlashes u.text = v.text) ∨
      dropSlashes u.text = u.origin ∧ u.query = none ∧ u.fragment = none := by
  -- the slashes at the end are those of the fragment if there is one, else of the query, else of the path
  rw [Url.text_eq]
  cases fragment : u.fragment with
  | some f =>
    have front : (u.origin ++ u.path.text ++ Url.behind '?' u.query ++ ['#']).getLast? ≠ some '/' := by simp
    have kept := dropSlashes_append front f
    refine .inl ⟨{ u with fragment := some (dropSlashes f) }, { h with fragment := ?_ }, ?_⟩
    · exact fun r hr => Option.some.inj hr ▸ forall_dropSlashes (h.fragment f fragment)
    · rw [Url.text_with]
      simpa [Url.behind] using kept
  | none =>
    cases query : u.query with
    | some q =>
      have front : (u.origin ++ u.path.text ++ ['?']).getLast? ≠ some '/' := by simp
      have kept := dropSlashes_append front q
      refine .inl ⟨{ u with query := some (dropSlashes q), fragment := none },
        { h with query := ?_, fragment := forall_mem_none }, ?_⟩
      · exact fun r hr => Option.some.inj hr ▸ forall_dropSlashes (h.query q query)
      · rw [Url.text_with]
        simpa [Url.behind] using kept
    | none =>
      have kept := dropSlashes_append (origin_getLast?_ne h) u.path.text
      simp only [Url.behind, List.append_nil, kept]
      obtain none | ⟨p, normal, left⟩ := dropSlashes_path h.path
      · rw [none, List.append_nil]
        exact .inr ⟨rfl, trivial, trivial⟩
      · refine .inl ⟨{ u with path := p, query := none, fragment := none },
          { h with path := normal, query := forall_mem_none, fragment := forall_mem_none }, ?_⟩
        rw [Url.text_with, left]
        simp [Url.behind]

theorem read_origin (h : u.Normal) :
    read u.origin = .ok (.web { u with path := ⟨[], []⟩, query := none, fragment := none }) := by
  have known : read (u.origin ++ [] ++ Url.behind '?' none ++ Url.behind '#' none) =
      .ok (.web { u with path := WebPath.read [], query := none, fragment := none }) :=
    read_origin_append h forall_mem_none (fun c hc => absurd hc List.not_mem_nil) forall_mem_none forall_mem_none
  simp only [Url.behind, List.append_nil] at known
  exact known

/-- **Dropping the slashes at the end** leaves query and fragment as they are exactly if there are none of them, or no
    slashes. -/
theorem dropSlashes_parts_iff (hu : read (dropSlashes s) = .ok (.web u)) (hv : read s = .ok (.web v)) :
    u.query = v.query ∧ u.fragment = v.fragment ↔
      (s.getLast? = some '/' → v.query = none ∧ v.fragment = none) := by
  by_cases slash : s.getLast? = some '/'
  · have parts : dropSlashes s ++ s.rtakeWhile (· == '/') = s := List.rdropWhile_append_rtakeWhile
    have slashes : ∀ c ∈ s.rtakeWhile (· == '/'), c = '/' := fun c hc => by
      simpa using List.mem_rtakeWhile_imp hc
    have ends : s.rtakeWhile (· == '/') ≠ [] := by
      intro none
      rw [none, List.append_nil] at parts
      exact dropSlashes_eq_self_iff.mp parts slash
    rw [← parts] at hv
    simp only [slash, true_implies]
    exact same_parts_iff hu slashes ends hv
  · rw [dropSlashes_eq_self_iff.mpr slash, hv] at hu
    cases hu
    exact iff_of_true ⟨rfl, rfl⟩ fun ends => absurd ends slash

/-- **The slashes at the end of an address matter**, unless they are all of its path. -/
theorem read_dropSlashes_iff (h : u.Normal) :
    read (dropSlashes u.text) = .ok (.web u) ↔
      (u.text.getLast? = some '/' → u.path.text = ['/'] ∧ u.query = none ∧ u.fragment = none) := by
  by_cases slash : u.text.getLast? = some '/'
  · have shorter : dropSlashes u.text ≠ u.text := fun same => dropSlashes_eq_self_iff.mp same slash
    simp only [slash, true_implies]
    constructor
    · intro same
      obtain ⟨v, normal, left⟩ | ⟨left, noQuery, noFragment⟩ := dropSlashes_text h
      · rw [left, read_text normal] at same
        cases same
        exact absurd left shorter
      · rw [left, read_origin h] at same
        have path := congrArg Url.path (Address.web.inj (Except.ok.inj same))
        exact ⟨WebPath.text_eq_slash_iff.mpr path.symm, noQuery, noFragment⟩
    · rintro ⟨path, noQuery, noFragment⟩
      have left : dropSlashes u.text = u.origin := by
        rw [Url.text_eq, path, noQuery, noFragment, Url.behind, Url.behind, List.append_nil, List.append_nil,
          dropSlashes_append (origin_getLast?_ne h)]
        exact List.append_nil u.origin
      have bare : { u with path := ⟨[], []⟩, query := none, fragment := none } = u := by
        have root := WebPath.text_eq_slash_iff.mp path
        cases u
        cases root
        cases noQuery
        cases noFragment
        rfl
      rw [left, read_origin h, bare]
  · rw [dropSlashes_eq_self_iff.mpr slash]
    exact iff_of_true (read_text h) fun ends => absurd ends slash

end PolicyDesk.Address
