import PolicyDesk.Console.Run
import PolicyDesk.Proofs.Service.Request

/-!
# What the console sends

* `sending_requests`: a policy is sent if it is complete, and nothing is sent if it is not.
* `Command.aims`: the record that a command may replace; `Command.perform_makes`: it makes one call at most,
  replaces no other record, and sends complete policies only.
* `Console.sent`: what a command line sends.
-/

namespace PolicyDesk.Console

variable {collection : Url} {d : Delivery} {c : Call} {p : Policy} {text : c.Answer → String}

theorem asking_requests : (asking c text).requests collection d = [c.request collection] := by
  rw [asking, Plan.requests_ask]
  cases c.result collection d <;> rfl

theorem sending_requests : (sending c p text).requests collection d =
    if p.Complete then [c.request collection] else [] := by
  unfold sending
  split
  · rename_i checked
    rw [if_pos (Policy.check_eq_ok_iff.mp checked), asking_requests]
  · rename_i checked
    rw [if_neg fun complete => by cases checked.symm.trans (Policy.check_eq_ok_iff.mpr complete)]
    rfl

/-- The record that a command may replace. -/
def Command.aims : Command → UInt64 → Prop
  | update id _ => (· = id)
  | _ => fun _ => False

theorem asking_makes {good : Call → Prop} (h : good c) (text : c.Answer → String) : (asking c text).Makes good 1 :=
  .ask h fun r => by cases r <;> exact .done

theorem sending_makes {good : Call → Prop} (h : p.Complete → good c) (text : c.Answer → String) :
    (sending c p text).Makes good 1 := by
  unfold sending
  split
  · rename_i checked
    exact asking_makes (h (Policy.check_eq_ok_iff.mp checked)) text
  · exact .done

/-- **Whatever a command is answered**, it makes one call at most, sends complete policies only, and replaces no
    policy but the one that it names. -/
theorem Command.perform_makes (command : Command) : command.perform.Makes (Call.Fit command.aims) 1 := by
  cases command with
  | list json => exact asking_makes (c := .list) trivial _
  | get id json => exact asking_makes (c := .get id) trivial _
  | create f =>
    rw [perform]
    exact sending_makes (fun complete => complete) _
  | update id f =>
    rw [perform]
    exact sending_makes (fun complete => ⟨rfl, rfl, complete⟩) _
  | delete id => exact asking_makes (c := .delete id) trivial _
  | version => exact .done

variable [InternationalNames]

/-- What a command line sends once the runtime has started, whether it arrives or not. -/
def sent (env : Environment) (words : List String) (d : Delivery) : List Request :=
  match start env words with
  | .error _ => []
  | .ok (url, command) => command.perform.requests url d

theorem sent_length_le (env : Environment) (words : List String) (d : Delivery) : (sent env words d).length ≤ 1 := by
  unfold sent
  split
  · exact Nat.zero_le 1
  · exact (Command.perform_makes _).requests_length_le _ _

theorem sent_proper {env : Environment} {words : List String} {r : Request} (h : r ∈ sent env words d) :
    ∃ url command, start env words = .ok (url, command) ∧ r.Proper url command.aims := by
  unfold sent at h
  split at h
  · cases h
  · rename_i url command started
    exact ⟨url, command, started, command.perform_makes.requests_proper d r h⟩

end PolicyDesk.Console
