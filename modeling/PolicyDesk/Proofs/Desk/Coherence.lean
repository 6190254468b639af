import PolicyDesk.Desk.Actions
import PolicyDesk.Proofs.Desk.Sending
import PolicyDesk.Proofs.Service.Store

/-!
# The list keeps step with the service

A desk works with a `Store` behind it, and nobody else writes to the store. From the first load that
succeeds on, the list at the desk is the rows of the store.

* `Office`: a desk with the store behind it; `Turn`: one action, with what the store decides by itself.
* `Office.turn`, `Office.after`: an office after one turn, and after a run of turns.
* `Desk.perform_keeps`: what one action preserves. An update replaces the first entry with its identifier on
  either side, and since both sides have the same entries the list never has to append one.
* `load_coherent`: a load that succeeds makes the list the rows of the store.
* `after_sound`, `after_coherent`: what a run preserves.
* `list_is_the_rows`: so after every run with such a load in it, whatever was done and refused.
-/

namespace PolicyDesk

namespace Desk

variable {d : Desk} {s : Store} {m : Mood} {β : Type}

/-! ## One action -/

/-- The desk replaces a record only under the record's own identifier. -/
theorem perform_isAimed (d : Desk) (today : Date) (a : Action) : (d.perform today a).Makes Call.isAimed 1 :=
  (perform_makes d today a).mono fun c fit => by
    cases c with
    | update id p => exact fit.1
    | list | get id | create p | delete id => trivial

/-- The list after a plan is the rows after it. -/
def Keeps (s : Store) (m : Mood) (p : Plan (After β)) : Prop :=
  (s.carry m p).1.1.policies = (s.carry m p).2.rows

theorem asking_keeps {call : Call} {change : Desk → call.Answer → Desk} {value : call.Answer → β}
    (same : d.policies = s.rows)
    (take : ∀ t a, s.serve m call = (t, .ok a) → (change { d with lastError := none } a).policies = t.rows) :
    Keeps s m (d.asking call change value) := by
  unfold Keeps asking
  rw [Store.carry_ask]
  rcases hs : s.serve m call with ⟨t, r⟩
  cases r with
  | error e =>
    rw [Store.serve_error hs]
    exact same
  | ok a => exact take t a hs

theorem load_keeps (same : d.policies = s.rows) : Keeps s m d.load :=
  asking_keeps same fun t rows hs => by
    obtain ⟨rfl, rfl⟩ := Store.serve_list hs
    rfl

theorem add_keeps (today : Date) (same : d.policies = s.rows) : Keeps s m (d.add today) := by
  unfold add
  split
  · exact same
  · refine asking_keeps same fun t row hs => ?_
    obtain ⟨_, rfl⟩ := Store.serve_create hs
    exact congrArg (· ++ [row]) same

/-- If there is an entry with the identifier, nothing is appended. -/
theorem put_eq_set {id : UInt64} {p : Policy} :
    ∀ {rows : List Policy} {i : Nat}, rows.findIdx? (·.id == id) = some i → put id p rows = rows.set i p
  | [], i, h => by cases h
  | q :: rows, i, h => by
    rw [List.findIdx?_cons] at h
    unfold put
    by_cases hq : q.id = id
    · simp only [hq, beq_self_eq_true, if_true] at h
      cases h
      rw [if_pos hq]
      rfl
    · have hne : (q.id == id) = false := by simpa using hq
      simp only [hne, Bool.false_eq_true, if_false] at h
      obtain ⟨j, hj, rfl⟩ := Option.map_eq_some_iff.mp h
      rw [if_neg hq, put_eq_set hj]
      rfl

theorem update_keeps (today : Date) (same : d.policies = s.rows) : Keeps s m (d.update today) := by
  unfold update
  simp only
  split
  · exact same
  · refine asking_keeps same fun t row hs => ?_
    obtain ⟨rfl, i, hi, rfl⟩ := Store.serve_update hs
    show put d.selected.id d.selected d.policies = s.rows.set i d.selected
    rw [same, put_eq_set hi]

theorem delete_keeps (today : Date) (id : UInt64) (same : d.policies = s.rows) :
    Keeps s m (d.delete today id) :=
  asking_keeps same fun t _ hs => by
    rw [Store.serve_delete hs]
    show d.policies.filter (·.id != id) = s.rows.filter (·.id != id)
    rw [same]

theorem pick_policies (id : UInt64) (d : Desk) : (d.pick id).1.policies = d.policies := by
  unfold pick
  split <;> rfl

theorem edit_policies (form : PolicyForm) (d : Desk) : (d.edit form).1.policies = d.policies := by
  unfold edit
  split <;> rfl

theorem Keeps.map {γ : Type} {p : Plan (After β)} (h : Keeps s m p) {f : After β → After γ}
    (quiet : ∀ after, (f after).1 = after.1) : Keeps s m (p.map f) := by
  unfold Keeps
  rw [Store.carry_map]
  simp only [quiet]
  exact h

theorem silently_desk (after : After Unit) : (silently after).1 = after.1 := rfl

/-- **What one action preserves.** -/
theorem perform_keeps (today : Date) (a : Action) (same : d.policies = s.rows) :
    Keeps s m (d.perform today a) := by
  cases a with
  | load =>
    rw [perform]
    exact (load_keeps same).map silently_desk
  | add =>
    rw [perform]
    exact (add_keeps today same).map fun _ => rfl
  | update =>
    rw [perform]
    exact (update_keeps today same).map silently_desk
  | delete id =>
    rw [perform]
    exact (delete_keeps today id same).map silently_desk
  | pick id =>
    simp only [Keeps, perform, Store.carry_done, silently, pick_policies]
    exact same
  | edit form =>
    simp only [Keeps, perform, Store.carry_done, silently, edit_policies]
    exact same
  | select p =>
    simp only [Keeps, perform, Store.carry_done, select]
    exact same
  | reset =>
    simp only [Keeps, perform, Store.carry_done, reset, select]
    exact same

/-- A load that succeeds does not need the list to be right before. -/
theorem load_takes_rows (h : (s.carry m d.load).1.2 = .ok ()) : Keeps s m d.load := by
  unfold Keeps load asking at *
  rw [Store.carry_ask] at *
  rcases hs : s.serve m .list with ⟨t, r⟩
  rw [hs] at h
  cases r with
  | error e => cases h
  | ok rows =>
    obtain ⟨rfl, rfl⟩ := Store.serve_list hs
    rfl

end Desk

/-! ## Runs -/

/-- A desk with the store behind it. -/
structure Office where
  desk : Desk
  store : Store
  deriving DecidableEq, Repr

/-- One action, with what the store decides by itself if it is asked. -/
structure Turn where
  action : Desk.Action
  /-- The date of a blank policy. -/
  today : Date
  mood : Mood
  deriving DecidableEq, Repr

namespace Office

/-- The office after a turn, and the result of the action. -/
def turn (o : Office) (t : Turn) : Office × Except DeskError (Option UInt64) :=
  let ((desk, result), store) := o.store.carry t.mood (o.desk.perform t.today t.action)
  (⟨desk, store⟩, result)

/-- The office after a run of turns. -/
def after (o : Office) (ts : List Turn) : Office := ts.foldl (fun o t => (o.turn t).1) o

/-- The list at the desk is the rows of the store. -/
def Coherent (o : Office) : Prop := o.desk.policies = o.store.rows

theorem turn_sound {o : Office} (h : o.store.Sound) (t : Turn) : (o.turn t).1.store.Sound :=
  Store.carry_sound h (Desk.perform_isAimed _ _ _)

theorem turn_coherent {o : Office} (h : o.Coherent) (t : Turn) : (o.turn t).1.Coherent :=
  Desk.perform_keeps t.today t.action h

theorem load_coherent {o : Office} {t : Turn} {v : Option UInt64} (load : t.action = .load)
    (done : (o.turn t).2 = .ok v) : (o.turn t).1.Coherent := by
  obtain ⟨action, today, mood⟩ := t
  subst load
  refine (Desk.load_takes_rows ?_).map Desk.silently_desk
  simp only [turn, Desk.perform, Store.carry_map, Desk.silently] at done
  generalize (o.store.carry mood o.desk.load).1.2 = r at done
  cases r with
  | error e => cases done
  | ok u => rfl

theorem after_sound {o : Office} (h : o.store.Sound) (ts : List Turn) : (o.after ts).store.Sound := by
  induction ts generalizing o with
  | nil => exact h
  | cons t ts ih => exact ih (turn_sound h t)

theorem after_coherent {o : Office} (h : o.Coherent) (ts : List Turn) : (o.after ts).Coherent := by
  induction ts generalizing o with
  | nil => exact h
  | cons t ts ih => exact ih (turn_coherent h t)

/-- **The list is the rows of the store, entry for entry**, after every run in which a load has succeeded:
    whatever was done before it and after it, whichever calls were refused, and whatever was put into the
    form. The identifiers are distinct, and none of them is zero. -/
theorem list_is_the_rows {o : Office} (sound : o.store.Sound) (before : List Turn) {t : Turn}
    {v : Option UInt64} (load : t.action = .load) (done : ((o.after before).turn t).2 = .ok v)
    (later : List Turn) :
    let now := o.after (before ++ t :: later)
    now.desk.policies = now.store.rows ∧ (now.desk.policies.map (·.id)).Nodup ∧
      ∀ p ∈ now.desk.policies, p.id ≠ 0 := by
  intro now
  have hnow : now = ((o.after before).turn t).1.after later := by
    simp only [now, after, List.foldl_append, List.foldl_cons]
  have hsound : now.store.Sound := after_sound sound _
  have hlist : now.Coherent := hnow ▸ after_coherent (load_coherent load done) later
  refine ⟨hlist, ?_, ?_⟩
  · rw [hlist]
    exact hsound.distinct
  · rw [hlist]
    exact hsound.stored

/-- A desk that first tries to replace a row that the store does not have; then it loads, stores a draft
    under a new identifier, and removes a row. -/
theorem list_is_the_rows_after_stray_update :
    let row (id : UInt64) : Policy := ⟨id, "P-1", "Auto", .zero, .epoch, .epoch, true, 7⟩
    let turn (a : Desk.Action) : Turn := ⟨a, .epoch, true, .transport .brokenOff, 9⟩
    let o : Office := ⟨.opened .epoch, ⟨[row 3, row 5], 5⟩⟩
    let before := [turn (.select (row 4)), turn .update]
    let later := [turn (.select (row 4)), turn .add, turn (.delete 3)]
    let now := o.after (before ++ turn .load :: later)
    o.store.Sound ∧ ((o.after before).turn (turn .load)).2 = .ok none ∧
      now.store.rows = [row 5, row 9] ∧
      now.desk.policies = now.store.rows ∧ (now.desk.policies.map (·.id)).Nodup ∧
        ∀ p ∈ now.desk.policies, p.id ≠ 0 := by
  intro row turn o before later now
  have sound : o.store.Sound := ⟨by decide, by decide, by decide⟩
  have done : ((o.after before).turn (turn .load)).2 = .ok none := by rfl
  exact ⟨sound, done, by decide, list_is_the_rows sound before rfl done later⟩

end Office

end PolicyDesk
