import PolicyDesk.Proofs.Service.Plan

/-!
# A service that keeps its records in memory

The least that a service behind the desk has to do. It keeps rows under identifiers that it gives itself,
and may refuse any call, which then changes nothing.

* `Store`: the rows and the largest identifier given so far; `Store.Sound`: the identifiers are distinct and
  none of them is zero.
* `Mood`: what the store decides by itself in one call: whether it refuses, and which identifier a new row
  would get.
* `Store.serve`: the store after a call, and its answer; `Store.carry`: what comes of a plan.
* `serve_error` and `serve_list` to `serve_delete`: what each answer says about the rows.
* `serve_sound`, `carry_sound`: a sound store stays sound, if rows are only replaced under their own
  identifiers.
-/

namespace PolicyDesk

/-- Rows in memory. -/
structure Store where
  rows : List Policy
  /-- The largest identifier given so far. -/
  last : UInt64
  deriving DecidableEq, Repr

/-- What the store decides by itself in one call. -/
structure Mood where
  /-- Whether it does what it is asked. -/
  willing : Bool
  /-- The error if it refuses. -/
  refusal : ServiceError
  /-- The identifier that a new row would get. -/
  fresh : UInt64
  deriving DecidableEq, Repr

namespace Store

/-- The identifiers are distinct, and none of them is zero or larger than the largest given so far. -/
structure Sound (s : Store) : Prop where
  distinct : (s.rows.map (·.id)).Nodup
  stored : ∀ p ∈ s.rows, p.id ≠ 0
  given : ∀ p ∈ s.rows, p.id ≤ s.last

/-- The store after a call, and its answer. A new row needs an identifier above all given so far. -/
def serve (m : Mood) (s : Store) (c : Call) : Store × Except ServiceError c.Answer :=
  if m.willing then
    match c with
    | .list => (s, .ok s.rows)
    | .get id =>
      match s.rows.find? (·.id == id) with
      | some p => (s, .ok p)
      | none => (s, .error (.notFound id))
    | .create p =>
      if s.last < m.fresh then
        let row : Policy := { p with id := m.fresh }
        (⟨s.rows ++ [row], m.fresh⟩, .ok row)
      else (s, .error m.refusal)
    | .update id p =>
      match s.rows.findIdx? (·.id == id) with
      | some i => ({ s with rows := s.rows.set i p }, .ok p)
      | none => (s, .error (.notFound id))
    | .delete id =>
      let kept := s.rows.filter (·.id != id)
      if kept.length = s.rows.length then (s, .error (.notFound id))
      else ({ s with rows := kept }, .ok ())
  else (s, .error m.refusal)

/-- What comes of a plan if the store answers, and the store after it. -/
def carry {α : Type} (m : Mood) (s : Store) : Plan α → α × Store
  | .done a => (a, s)
  | .ask c next => (s.serve m c).1.carry m (next (s.serve m c).2)

@[simp] theorem carry_done {α : Type} (m : Mood) (s : Store) (a : α) : s.carry m (.done a) = (a, s) := rfl

@[simp] theorem carry_ask {α : Type} (m : Mood) (s : Store) (c : Call)
    (next : Except ServiceError c.Answer → Plan α) :
    s.carry m (.ask c next) = (s.serve m c).1.carry m (next (s.serve m c).2) := rfl

@[simp] theorem carry_map {α β : Type} (m : Mood) (s : Store) (f : α → β) (p : Plan α) :
    s.carry m (p.map f) = (f (s.carry m p).1, (s.carry m p).2) := by
  induction p generalizing s with
  | done a => rfl
  | ask c next ih => exact ih _ _

variable {m : Mood} {s t : Store}

/-! ## What an answer says about the rows -/

/-- A refused call changes nothing. -/
theorem serve_error {c : Call} {e : ServiceError} (h : s.serve m c = (t, .error e)) : t = s := by
  unfold serve at h
  split at h
  · split at h
    · cases h
    · split at h <;> cases h; rfl
    · split at h <;> cases h; rfl
    · split at h <;> cases h; rfl
    · simp only at h
      split at h <;> cases h; rfl
  · cases h; rfl

theorem serve_list {rows : List Policy} (h : s.serve m .list = (t, .ok rows)) :
    t = s ∧ rows = s.rows := by
  unfold serve at h
  split at h
  · cases h; exact ⟨rfl, rfl⟩
  · cases h

theorem serve_get {id : UInt64} {p : Policy} (h : s.serve m (.get id) = (t, .ok p)) : t = s := by
  unfold serve at h
  split at h
  · simp only at h
    split at h <;> cases h; rfl
  · cases h

theorem serve_create {p row : Policy} (h : s.serve m (.create p) = (t, .ok row)) :
    s.last < row.id ∧ t = ⟨s.rows ++ [row], row.id⟩ := by
  unfold serve at h
  split at h
  · simp only at h
    split at h
    · rename_i hfresh
      cases h
      exact ⟨hfresh, rfl⟩
    · cases h
  · cases h

theorem serve_update {id : UInt64} {p row : Policy} (h : s.serve m (.update id p) = (t, .ok row)) :
    row = p ∧ ∃ i, s.rows.findIdx? (·.id == id) = some i ∧ t = { s with rows := s.rows.set i p } := by
  unfold serve at h
  split at h
  · simp only at h
    split at h
    · rename_i i hi
      cases h
      exact ⟨rfl, i, hi, rfl⟩
    · cases h
  · cases h

theorem serve_delete {id : UInt64} (h : s.serve m (.delete id) = (t, .ok ())) :
    t = { s with rows := s.rows.filter (·.id != id) } := by
  unfold serve at h
  split at h
  · simp only at h
    split at h
    · cases h
    · cases h; rfl
  · cases h

/-! ## Soundness -/

theorem Sound.create (h : s.Sound) {row : Policy} (fresh : s.last < row.id) :
    Sound ⟨s.rows ++ [row], row.id⟩ where
  distinct := by
    rw [List.map_append, List.nodup_append]
    refine ⟨h.distinct, by simp, ?_⟩
    intro a ha b hb hab
    obtain ⟨p, hp, rfl⟩ := List.mem_map.mp ha
    have hrow : b = row.id := by simpa using hb
    have hle := h.given p hp
    rw [hab, hrow] at hle
    exact absurd fresh (UInt64.not_lt.mpr hle)
  stored p hp := by
    rcases List.mem_append.mp hp with hp | hp
    · exact h.stored p hp
    · have hrow : p = row := by simpa using hp
      intro hzero
      rw [hrow] at hzero
      rw [hzero] at fresh
      exact absurd fresh (by simp)
  given p hp := by
    rcases List.mem_append.mp hp with hp | hp
    · exact UInt64.le_trans (h.given p hp) (UInt64.le_of_lt fresh)
    · have hrow : p = row := by simpa using hp
      exact hrow ▸ UInt64.le_refl _

/-- Replacing a row under its own identifier leaves the identifiers as they are. -/
theorem ids_set {rows : List Policy} {id : UInt64} {p : Policy} {i : Nat}
    (hi : rows.findIdx? (·.id == id) = some i) (own : p.id = id) :
    (rows.set i p).map (·.id) = rows.map (·.id) := by
  obtain ⟨hlt, hid, _⟩ := List.findIdx?_eq_some_iff_getElem.mp hi
  have hin : i < (rows.map (·.id)).length := by simpa using hlt
  have hat : (rows.map (·.id))[i] = p.id := by
    simpa [own] using hid
  rw [List.map_set, ← hat, List.set_getElem_self]

theorem Sound.update (h : s.Sound) {id : UInt64} {p : Policy} {i : Nat}
    (hi : s.rows.findIdx? (·.id == id) = some i) (own : p.id = id) :
    Sound { s with rows := s.rows.set i p } := by
  have hids := ids_set hi own
  -- whatever is said about the identifiers alone carries over
  have carry : ∀ q ∈ s.rows.set i p, ∃ r ∈ s.rows, r.id = q.id := by
    intro q hq
    have : q.id ∈ (s.rows.set i p).map (·.id) := List.mem_map_of_mem hq
    rw [hids] at this
    exact List.mem_map.mp this
  refine ⟨hids ▸ h.distinct, ?_, ?_⟩
  · intro q hq
    obtain ⟨r, hr, hrq⟩ := carry q hq
    exact hrq ▸ h.stored r hr
  · intro q hq
    obtain ⟨r, hr, hrq⟩ := carry q hq
    exact hrq ▸ h.given r hr

theorem Sound.delete (h : s.Sound) (id : UInt64) :
    Sound { s with rows := s.rows.filter (·.id != id) } where
  distinct := h.distinct.sublist (List.filter_sublist.map _)
  stored p hp := h.stored p (List.mem_filter.mp hp).1
  given p hp := h.given p (List.mem_filter.mp hp).1

end Store

/-- A call that replaces a record sends it under its own identifier. -/
def Call.isAimed : Call → Prop
  | .update id p => p.id = id
  | _ => True

namespace Store

variable {m : Mood} {s : Store}

/-- **A sound store stays sound** whatever it is asked, if rows are replaced under their own identifiers. -/
theorem serve_sound (h : s.Sound) {c : Call} (aimed : c.isAimed) : (s.serve m c).1.Sound := by
  rcases hs : s.serve m c with ⟨t, r⟩
  cases r with
  | error e => exact serve_error hs ▸ h
  | ok a =>
    cases c with
    | list => exact (serve_list hs).1 ▸ h
    | get id => exact serve_get hs ▸ h
    | create p =>
      obtain ⟨fresh, rfl⟩ := serve_create hs
      exact h.create fresh
    | update id p =>
      obtain ⟨_, i, hi, rfl⟩ := serve_update hs
      exact h.update hi aimed
    | delete id => exact serve_delete hs ▸ h.delete id

theorem carry_sound {α : Type} (h : s.Sound) {n : Nat} {p : Plan α} (aimed : p.Makes Call.isAimed n) :
    (s.carry m p).2.Sound := by
  induction aimed generalizing s with
  | done => exact h
  | ask first _ ih => exact ih _ (serve_sound h first)

end Store

end PolicyDesk
