import PolicyDesk.Proofs.Text.Percent
import PolicyDesk.Proofs.Text.Pieces
import PolicyDesk.Proofs.Web.Refusal

/-!
# The paths of actions

* `Visit.PostsTo`: the browser posts to a path. `recordPath`: the paths of the actions on one record.
* `DecimalOf`: an identifier in decimal; `identifier_digits`: however it is spelled, it is read as itself.
* `accepted_refresh`, `accepted_new`, `accepted_form_add`, `accepted_form_update`: what posts to the other paths
  ask for.
* `accepted_on_record`: what posts to the paths of a record ask for.
-/

namespace PolicyDesk.Web

open Text (natural isDigit)

/-- The browser posts to the path. -/
structure Visit.PostsTo (v : Visit) (path : String) : Prop where
  method : v.method = "POST"
  path : pathOf v.target.toList = path.toList

/-- Digits that denote the identifier, perhaps with zeros in front. -/
structure DecimalOf (ds : List Char) (id : UInt64) : Prop where
  some : ds ≠ []
  digits : ∀ c ∈ ds, isDigit c = true
  value : Text.value ds = id.toNat

/-- The path of an action on the record with the identifier. -/
def recordPath (id : List Char) (action : String) : String := "/policies/" ++ String.ofList id ++ "/" ++ action

variable {v : Visit} {form : PolicyForm} {ds : List Char} {id : UInt64}

theorem decimalOf_natural (id : UInt64) : DecimalOf (natural id.toNat) id :=
  ⟨Text.natural_ne_nil _, Text.natural_isDigit _, Text.value_natural _⟩

/-- An identifier in a path is read as itself. -/
theorem identifier_digits (h : DecimalOf ds id) : identifier ds = .ok id := by
  have fits : Text.value ds ≤ UInt64.size - 1 := by
    rw [h.value]
    exact Nat.le_sub_one_of_lt id.toNat_lt_size
  have read := Text.readUnsigned_digits h.some h.digits fits
  simp only [identifier, Text.resolved?_digits h.digits, String.toList_ofList, read, h.value, UInt64.ofNat_toNat]

/-! ## Paths without an identifier -/

theorem accepted_refresh (h : v.PostsTo "/policies/refresh") : v.Accepted .refresh := by
  refine ⟨h.method, .refresh, ?_, rfl⟩
  rw [Visit.route?, h.path]
  decide

theorem accepted_new (h : v.PostsTo "/policies/new") : v.Accepted .new := by
  refine ⟨h.method, .new, ?_, rfl⟩
  rw [Visit.route?, h.path]
  decide

theorem accepted_form_add (h : v.PostsTo "/policies") (read : v.form = .ok form) : v.Accepted (.add form) := by
  refine ⟨h.method, .add, ?_, form, read, rfl⟩
  rw [Visit.route?, h.path]
  decide

theorem accepted_form_update (h : v.PostsTo "/policies/update") (read : v.form = .ok form) :
    v.Accepted (.update form) := by
  refine ⟨h.method, .update, ?_, form, read, rfl⟩
  rw [Visit.route?, h.path]
  decide

/-! ## Paths of a record -/

theorem pieces_recordPath {action : String} (hid : ∀ c ∈ ds, isDigit c = true)
    (ha : '/' ∉ action.toList) :
    Text.pieces (· == '/') (recordPath ds action).toList = [[], "policies".toList, ds, action.toList] := by
  have path : (recordPath ds action).toList = Text.joined ['/'] [[], "policies".toList, ds, action.toList] := by
    simp [recordPath, Text.joined]
  have folder : '/' ∉ "policies".toList := by decide
  have digits : '/' ∉ ds := fun slash => by cases hid '/' slash
  rw [path]
  refine Text.pieces_joined rfl (List.cons_ne_nil _ _) fun p hp c hc => beq_false_of_ne ?_
  rintro rfl
  simp only [List.mem_cons, List.not_mem_nil, or_false] at hp
  obtain rfl | rfl | rfl | rfl := hp
  · cases hc
  · exact folder hc
  · exact digits hc
  · exact ha hc

/-- **A post to a path of a record** asks for the action on this record. -/
theorem accepted_on_record (h : DecimalOf ds id) :
    (v.PostsTo (recordPath ds "select") → v.Accepted (.select id)) ∧
    (v.PostsTo (recordPath ds "edit") → v.Accepted (.edit id)) ∧
    (v.PostsTo (recordPath ds "delete") → v.Accepted (.delete id)) := by
  have read := identifier_digits h
  refine ⟨fun posts => ⟨posts.method, .select ds, ?_, id, read, rfl⟩,
    fun posts => ⟨posts.method, .edit ds, ?_, id, read, rfl⟩,
    fun posts => ⟨posts.method, .delete ds, ?_, id, read, rfl⟩⟩
  all_goals
    rw [Visit.route?, posts.path, Route.ofPath?, pieces_recordPath h.digits (by decide)]
    simp

end PolicyDesk.Web
