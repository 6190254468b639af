import PolicyDesk.Proofs.Service.Outcomes
import PolicyDesk.Proofs.Web.Banner
import PolicyDesk.Proofs.Web.Refinement

/-!
# The buttons of a row act on its policy

From the text of the page back to the desk: a row of the table is found in the page, the addresses of its buttons are
read, and posts to them arrive at the policy of the row.

* `find?_of_distinct`, `filter_of_distinct`: in a list without repeated identifiers, the entries under an
  identifier are one entry.
* `perform_pick`, `next_delete`: what picking and removing a listed record does.
* `PicksAt`, `RemovesAt`: what the buttons of a row should do.
* `buttons_act_on_their_row`: so they do, on every page of a list without repeated identifiers.
-/

namespace PolicyDesk

open Page (Button buttons)

/-! ## Lists without repeated identifiers -/

section

variable {ps : List Policy} {p : Policy} {index : Nat}

theorem ne_of_distinct {q : Policy} (distinct : ((q :: ps).map (·.id)).Nodup) (h : p ∈ ps) : q.id ≠ p.id := by
  intro same
  obtain ⟨other, -⟩ := List.nodup_cons.mp (List.map_cons ▸ distinct)
  exact other (same ▸ List.mem_map_of_mem h)

/-- Each entry is the first with its identifier. -/
theorem find?_of_distinct (distinct : (ps.map (·.id)).Nodup) (h : p ∈ ps) : ps.find? (·.id == p.id) = some p := by
  induction ps with
  | nil => cases h
  | cons q ps ih =>
    obtain rfl | later := List.mem_cons.mp h
    · exact List.find?_cons_of_pos (by simp)
    · rw [List.find?_cons_of_neg (by simpa using ne_of_distinct distinct later)]
      exact ih (List.nodup_cons.mp (List.map_cons ▸ distinct)).2 later

/-- Each entry is the only one with its identifier. -/
theorem filter_of_distinct (distinct : (ps.map (·.id)).Nodup) (h : ps[index]? = some p) :
    ps.filter (·.id != p.id) = ps.eraseIdx index := by
  induction ps generalizing index with
  | nil => cases h
  | cons q ps ih =>
    cases index with
    | zero =>
      obtain rfl : q = p := by simpa using h
      have others : ∀ r ∈ ps, (r.id != q.id) = true := fun r mem => by
        simpa using (ne_of_distinct distinct mem).symm
      rw [List.filter_cons_of_neg (by simp), List.filter_eq_self.mpr others]
      rfl
    | succ index =>
      have at_index : ps[index]? = some p := by simpa using h
      have other := ne_of_distinct distinct (List.mem_of_getElem? at_index)
      rw [List.filter_cons_of_pos (by simpa using other), ih (List.nodup_cons.mp (List.map_cons ▸ distinct)).2 at_index]
      rfl

end

/-! ## Removing a record -/

theorem Call.result_delete {collection : Url} {id : UInt64} {delivery : Delivery} {r : Reply}
    (h : (Call.delete id).heard? collection delivery = some r) (success : 200 ≤ r.status ∧ r.status < 300) :
    (Call.delete id).result collection delivery = .ok () := by
  rw [result_of_heard h]
  exact (ofReply_answered (.delete id) r).accepted success

namespace Web

variable {collection : Url} {d : Desk} {i : Arrival} {id : UInt64} {p : Policy} {delivery : Delivery}

/-- Both ways of picking a listed policy put it into the form, and ask nothing. -/
theorem perform_pick (listed : d.find? p.id = some p) (today : Date) {a : Action}
    (picks : a = .select p.id ∨ a = .edit p.id) :
    a.perform today d = .done { d with selected := p, lastError := none } := by
  have picked : (d.pick p.id).1 = { d with selected := p, lastError := none } := by
    rw [Desk.pick, listed]
    rfl
  obtain rfl | rfl := picks
  · rw [perform_select, picked]
  · rw [Action.perform, picked]

theorem next_delete (accepted : i.visit.Accepted (.delete id)) (free : i.held = false)
    (removed : (Call.delete id).result collection delivery = .ok ()) :
    machine.next collection d i delivery =
      { d with
        policies := d.policies.filter (·.id != id)
        selected := if d.selected.id = id then .draft i.site.today else d.selected
        lastError := none } := by
  rw [next_of_accepted accepted free, Action.perform, Plan.run, Plan.answered_map, Desk.delete, Desk.asking,
    Plan.answered_ask, Plan.answered_done, removed]
  rfl

/-! ## What the buttons of a row should do -/

/-- A post to the address puts the policy into the form, and the list stays as it is. -/
structure PicksAt (collection : Url) (d : Desk) (p : Policy) (address : String) : Prop where
  sends : ∀ (post : Arrival) (delivery : Delivery), post.held = false → post.visit.PostsTo address →
    (machine d post).requests collection delivery = []
  leaves : ∀ (post : Arrival) (delivery : Delivery), post.held = false → post.visit.PostsTo address →
    machine.next collection d post delivery = { d with selected := p, lastError := none }

/-- A post to the address asks the service to remove the policy, and nothing else. If the service does, the entry at
    the index is taken out of the list, and the form is cleared if the policy in it has the same identifier. -/
structure RemovesAt (collection : Url) (d : Desk) (index : Nat) (p : Policy) (address : String) : Prop where
  sends : ∀ (post : Arrival) (delivery : Delivery), post.held = false → post.visit.PostsTo address →
    ∃ r, (machine d post).requests collection delivery = [r] ∧ (Call.delete p.id).Asks collection r
  leaves : ∀ (post : Arrival) (delivery : Delivery) (r : Reply), post.held = false → post.visit.PostsTo address →
    (Call.delete p.id).heard? collection delivery = some r → 200 ≤ r.status ∧ r.status < 300 →
    machine.next collection d post delivery =
      { d with
        policies := d.policies.eraseIdx index
        selected := if d.selected.id = p.id then .draft post.site.today else d.selected
        lastError := none }

/-- A row has three buttons, and posts to their addresses act on the policy, the entry at the index. -/
structure RowActs (collection : Url) (d : Desk) (index : Nat) (p : Policy) (row : List Char) : Prop where
  buttons : ∃ select edit delete,
    buttons row = [⟨select, "Select"⟩, ⟨edit, "Update"⟩, ⟨delete, "Delete"⟩] ∧
      PicksAt collection d p select ∧ PicksAt collection d p edit ∧ RemovesAt collection d index p delete
  /-- The address itself may be posted to. -/
  posted : ∀ v : Visit, ∀ b ∈ Page.buttons row, v.method = "POST" → v.target = b.address → v.PostsTo b.address

/-! ## What they do -/

/-- The address of a button is a path. -/
theorem postsTo_buttonPath {v : Visit} {action : String} (plain : '?' ∉ action.toList ∧ '#' ∉ action.toList)
    (method : v.method = "POST") (target : v.target = Page.buttonPath id action) :
    v.PostsTo (Page.buttonPath id action) := by
  have noQuery := Page.notMem_buttonPath id (by decide +kernel) (by decide) plain.1
  have noFragment := Page.notMem_buttonPath id (by decide +kernel) (by decide) plain.2
  have whole : (Page.buttonPath id action).toList.takeWhile (fun c => c != '?' && c != '#') =
      (Page.buttonPath id action).toList := by
    refine List.takeWhile_eq_self_iff.mpr fun c mem => ?_
    have query : c ≠ '?' := fun same => noQuery (same ▸ mem)
    have fragment : c ≠ '#' := fun same => noFragment (same ▸ mem)
    simp [query, fragment]
  obtain ⟨rest, rooted⟩ : ∃ rest, (Page.buttonPath id action).toList = '/' :: rest := by
    have first : "/policies/".toList = '/' :: "policies/".toList := by decide +kernel
    exact ⟨_, by rw [Page.buttonPath_toList, first]; rfl⟩
  refine ⟨method, ?_⟩
  rw [target, pathOf, whole, rooted]
  rfl

theorem picksAt_of_accepted (listed : d.find? p.id = some p) {address : String} {a : Action}
    (picks : a = .select p.id ∨ a = .edit p.id) (accepted : ∀ v : Visit, v.PostsTo address → v.Accepted a) :
    PicksAt collection d p address where
  sends post delivery free posts := by
    rw [requests_of_accepted (accepted _ posts) free, perform_pick listed _ picks, Plan.requests_done]
  leaves post delivery free posts := by
    rw [next_of_accepted (accepted _ posts) free, perform_pick listed _ picks, Plan.run, Plan.answered_done]

theorem removesAt_buttonPath {index : Nat} (distinct : (d.policies.map (·.id)).Nodup)
    (at_index : d.policies[index]? = some p) :
    RemovesAt collection d index p (Page.buttonPath p.id "delete") where
  sends post delivery free posts := by
    have accepted : post.visit.Accepted (.delete p.id) := (accepted_on_record (decimalOf_natural p.id)).2.2 posts
    exact ⟨_, requests_of_accepted accepted free delivery, Call.request_asks collection (.delete p.id)⟩
  leaves post delivery r free posts heard success := by
    have accepted : post.visit.Accepted (.delete p.id) := (accepted_on_record (decimalOf_natural p.id)).2.2 posts
    rw [next_delete accepted free (Call.result_delete heard success), filter_of_distinct distinct at_index]

/-- **The buttons of a row act on its policy.** No two policies in the list have the same identifier; apart from
    that, list and form may hold anything. A browser that asks for the page gets the page of the desk. It has as many
    rows as there are policies, and the row at an index has three buttons, the addresses of which can be posted to as
    they stand. While nobody else holds the desk, a post to the address of the first or the second puts the policy at
    this index into the form, asks the service nothing, and leaves the list as it is. A post to the address of the
    third asks the service to remove the record with the identifier of this policy, and nothing else; and if the
    answer is that it was removed, the policy at this index is taken out of the list, all others stay in their
    order, and the form is cleared exactly if it has a policy with this identifier. -/
theorem buttons_act_on_their_row (collection : Url) (d : Desk) (distinct : (d.policies.map (·.id)).Nodup) :
    (∀ view : Arrival, view.visit.AsksForPage → view.site.template = true →
      machine d view = .done (d, .html 200 (Page.View.ofDesk d).text)) ∧
    (Page.rows (Page.View.ofDesk d).text.toList).length = d.policies.length ∧
    ∀ index row, (Page.rows (Page.View.ofDesk d).text.toList)[index]? = some row →
      ∃ p, d.policies[index]? = some p ∧ RowActs collection d index p row := by
  have rows : Page.rows (Page.View.ofDesk d).text.toList = d.policies.map fun p =>
      (Page.rowPieces (Page.Entry.ofPolicy p)).flatMap Page.Piece.render := by
    rw [Page.rows_text]
    exact List.map_map
  refine ⟨fun view asked template => answer_of_asksForPage asked template, by rw [rows, List.length_map],
    fun index row found => ?_⟩
  rw [rows, List.getElem?_map] at found
  obtain ⟨p, at_index, rfl⟩ := Option.map_eq_some_iff.mp found
  have listed : d.find? p.id = some p := find?_of_distinct distinct (List.mem_of_getElem? at_index)
  have paths : ∀ v : Visit, _ := fun v => accepted_on_record (v := v) (decimalOf_natural p.id)
  refine ⟨p, at_index, ⟨_, _, _, Page.buttons_rowPieces _,
    picksAt_of_accepted listed (.inl rfl) fun v => (paths v).1,
    picksAt_of_accepted listed (.inr rfl) fun v => (paths v).2.1,
    removesAt_buttonPath distinct at_index⟩, fun v b mem method target => ?_⟩
  rw [Page.buttons_rowPieces] at mem
  obtain ⟨names, listed, rfl⟩ := List.mem_map.mp mem
  have plain : ∀ names ∈ Page.rowButtons, '?' ∉ names.1.toList ∧ '#' ∉ names.1.toList := by decide +kernel
  exact postsTo_buttonPath (plain names listed) method target

/-- A list with no identifier, the largest one, and texts that look like rows and addresses: there are three rows, and
    the second acts on the second policy. -/
theorem buttons_act_on_rows_of_any_texts :
    let policy (id : UInt64) (number : String) : Policy := ⟨id, number, "T", .zero, .epoch, .epoch, false, 0⟩
    let last := policy 18446744073709551615 "<form method=\"post\" action=\"/policies/0/delete\">"
    let d : Desk := ⟨[policy 0 "</tr><tr id=\"policy-9\">", last, policy 7 "refresh"], policy 7 "draft", none⟩
    let collection : Url := ⟨.http, [], [], .name "host".toList, none, ⟨[], "policies".toList⟩, none, none⟩
    let rows := Page.rows (Page.View.ofDesk d).text.toList
    (d.policies.map (·.id)).Nodup ∧ rows.length = 3 ∧ ∃ row, rows[1]? = some row ∧ RowActs collection d 1 last row := by
  intro policy last d collection rows
  have distinct : (d.policies.map (·.id)).Nodup := by decide +kernel
  obtain ⟨-, length, acts⟩ := buttons_act_on_their_row collection d distinct
  have inside : 1 < rows.length := by
    rw [length]
    decide
  obtain ⟨row, found⟩ : ∃ row, rows[1]? = some row := ⟨_, List.getElem?_eq_getElem inside⟩
  obtain ⟨p, at_index, acts⟩ := acts 1 row found
  obtain rfl : last = p := Option.some.inj at_index
  exact ⟨distinct, length, row, found, acts⟩

end Web

end PolicyDesk
