import PolicyDesk.Proofs.Desk.Atomicity
import PolicyDesk.Proofs.Page.Outline
import PolicyDesk.Proofs.Web.Refinement
import PolicyDesk.Web.Server

/-!
# No text changes the page

The number and the type of a policy, its dates and its premium, and the errors all come from outside, and the page
shows them. Whatever they hold, the page has the outline that its shape settles.

* `HasTexts`: a page is an outline with texts, escaped, in its holes.
* `perform_errorTells`, `next_errorTells`, `after_errorTells`: an error that is kept at the desk always tells
  something, so the page shows an error if there is one.
* `no_text_changes_the_outline`: two desks of one shape have pages that differ in their texts only.
-/

namespace PolicyDesk

open Page

namespace Page

/-- A page is an outline with texts, escaped, in its holes. There is a hole for each text. -/
structure View.HasTexts (v : View) (outline : List (Option String)) (texts : List String) : Prop where
  text : v.text.toList = fill outline (texts.map fun t => escape t.toList)
  holes : outline.count none = texts.length

theorem hasTexts_ofDesk (d : Desk) : (View.ofDesk d).HasTexts (Shape.ofDesk d).outline d.texts where
  text := by rw [← outline_ofDesk, ← texts_ofDesk, fill_outline, View.text, render, String.toList_ofList]
  holes := by rw [← outline_ofDesk, ← texts_ofDesk, count_none_outline]

end Page

/-! ## Errors that are kept -/

/-- If there is an error, it tells something. -/
def Desk.ErrorTells (d : Desk) : Prop := d.lastError ≠ some ""

namespace Desk

variable {d : Desk} {today : Date} {α : Type}

theorem Settled.errorTells {after : After α} (h : d.Settled after) : after.1.ErrorTells := by
  obtain ⟨after, result⟩ := after
  cases result with
  | error e =>
    obtain ⟨kept, tells⟩ := h.of_error e rfl
    rw [ErrorTells, kept]
    exact fun empty => tells (Option.some.inj empty)
  | ok a =>
    rw [ErrorTells, h.of_ok a rfl]
    exact fun empty => by cases empty

/-- If there is an error at the desk, the page shows one. -/
theorem ErrorTells.alert (h : d.ErrorTells) : (Shape.ofDesk d).alert = d.lastError.isSome := by
  have alert : (Shape.ofDesk d).alert = d.lastError.any (!·.isEmpty) := rfl
  rw [alert]
  cases shown : d.lastError with
  | none => rfl
  | some e =>
    have filled : e ≠ "" := fun empty => h (by rw [shown, empty])
    simpa [String.isEmpty_iff] using filled

end Desk

namespace Web

variable {d : Desk} {today : Date} {collection : Url}

section

variable (service : (c : Call) → Except ServiceError c.Answer)

theorem Action.submitting_errorTells {α : Type} {next : Desk → Plan (Desk.After α)} (form : PolicyForm)
    (settled : ∀ e : Desk, e.Settled ((next e).answered service)) :
    ((submitting form next d).answered service).ErrorTells := by
  have taken := Desk.edit_settled form d
  rw [submitting]
  split
  · rw [Plan.answered_map]
    exact (settled _).errorTells
  · rename_i refused e edits
    rw [edits] at taken
    exact taken.errorTells

/-- After an action of the page, an error tells something. -/
theorem Action.perform_errorTells (a : Action) : ((a.perform today d).answered service).ErrorTells := by
  obtain ⟨refresh, new, record⟩ := perform_eq_of_single today d
  have single : ∀ b : Desk.Action, (((d.perform today b).map Prod.fst).answered service).ErrorTells := by
    intro b
    rw [Plan.answered_map]
    exact (Desk.perform_settled service today d b).errorTells
  cases a with
  | refresh => exact refresh ▸ single .load
  | add form =>
    rw [perform]
    exact submitting_errorTells service form (Desk.add_settled service today)
  | update form =>
    rw [perform]
    exact submitting_errorTells service form (Desk.update_settled service today)
  | new => exact new ▸ single .reset
  | select id => exact (record id).2.1 ▸ single (.pick id)
  | edit id => exact (record id).2.2 ▸ single (.pick id)
  | delete id => exact (record id).1 ▸ single (.delete id)

end

theorem next_errorTells (tells : d.ErrorTells) (i : Arrival) (delivery : Delivery) :
    (machine.next collection d i delivery).ErrorTells := by
  unfold Machine.next machine Site.answer Plan.run
  split
  · exact tells
  · exact tells
  · split
    · exact tells
    · rw [Plan.answered_map]
      exact Action.perform_errorTells _ _

/-- **An error that is kept tells something**, after every run. -/
theorem after_errorTells (tells : d.ErrorTells) (steps : List (Arrival × Delivery)) :
    (machine.after collection d steps).ErrorTells := by
  induction steps generalizing d with
  | nil => exact tells
  | cons step steps ih => exact ih (next_errorTells tells step.1 step.2)

theorem start_errorTells (today : Date) (setup : Setup) (collection : Url) (delivery : Delivery) :
    ((Server.start today setup).run collection delivery).ErrorTells := by
  unfold Server.start Plan.run
  split
  · rw [Plan.answered_map]
    exact (Desk.load_settled _ _).errorTells
  · exact fun empty => by cases empty

/-! ## The page -/

/-- While the desk is held, the page is that of a desk with this error. -/
theorem busyView_eq (d : Desk) : busyView d = View.ofDesk { d with lastError := some DeskError.busy.message } := rfl

/-- **No text changes the outline.** The page of a desk is the outline of its shape with the texts of the desk in
    the holes, a text in each; so is the page while the desk is held. The shape is which policies are
    active, whether the one in the form is new or active, and whether there is an error. The outline has a row for
    each policy, in their order. Each text is escaped: it has no marks, an ampersand starts an entity, and it can
    be read back. So the pages of two desks of one shape differ in their texts only. -/
theorem no_text_changes_the_outline :
    (∀ d : Desk, (View.ofDesk d).HasTexts (Shape.ofDesk d).outline d.texts ∧
      (busyView d).HasTexts { Shape.ofDesk d with alert := true }.outline
        { d with lastError := some DeskError.busy.message }.texts) ∧
    (∀ (today : Date) (setup : Setup) (collection : Url) (first : Delivery) (steps : List (Arrival × Delivery)),
      let d := machine.after collection ((Server.start today setup).run collection first) steps
      (Shape.ofDesk d).alert = d.lastError.isSome) ∧
    (∀ s : Shape, ∃ before after, s.HasRows before after) ∧
    (∀ t : String, Escaped t.toList (escape t.toList)) ∧
    ∀ d e : Desk, Shape.ofDesk d = Shape.ofDesk e → ∃ outline,
      (View.ofDesk d).HasTexts outline d.texts ∧ (View.ofDesk e).HasTexts outline e.texts := by
  refine ⟨fun d => ⟨hasTexts_ofDesk d, ?busy⟩, fun today setup collection first steps => ?error, Shape.hasRows,
    fun t => escape_escaped t.toList, fun d e same => ?twice⟩
  case busy =>
    rw [busyView_eq]
    exact hasTexts_ofDesk _
  case error => exact (after_errorTells (start_errorTells today setup collection first) steps).alert
  case twice => exact ⟨(Shape.ofDesk d).outline, hasTexts_ofDesk d, same ▸ hasTexts_ofDesk e⟩

end Web

end PolicyDesk
