import Rehearsal.Proofs.Exchange.Stages
import Rehearsal.Proofs.TestCase.States

/-!
# Actions that are switched off can be deleted

An action that is switched off is deleted with all that it holds, wherever it stands. Whether an
action is switched off depends on what names refer to when the run comes to it: `Action.prune`
follows the run from world to world. Where no action and no processor changes what names refer to,
it is known from the start, and `Action.delete` needs no world. Main statement: a run without the
actions that are switched off does the same (`TestCase.deletion_transparent`).
-/

namespace Rehearsal

/-- No processor that is not built in changes what names refer to. -/
def Extensions.KeepBindings (x : Extensions) : Prop :=
  ∀ key, Leaves (fun p => p.context.bindings) (x.process key)

theorem Extensions.KeepBindings.preserves {x : Extensions} (h : x.KeepBindings) (p : Processor) :
    p.Preserves x Context.bindings := by
  cases p with
  | custom direction key => exact h key
  | _ => exact trivial

namespace Action

/-! ## Deleting -/

mutual
/-- An action without what is switched off in it, where names refer to these things. -/
def delete (b : Bindings) : Action → Action
  | .sequence name actor actions => .sequence name actor (deleteAll b actions)
  | .conditional name actor condition actions =>
    .conditional name actor condition (deleteAll b actions)
  | .echo message => .echo message
  | .fail message => .fail message
  | .sleep milliseconds => .sleep milliseconds
  | .createVariables vars => .createVariables vars
  | .send s => .send s
  | .receive r => .receive r
  | .custom name actor body => .custom name actor body

/-- Actions without those that are switched off, where names refer to these things. -/
def deleteAll (b : Bindings) : List Action → List Action
  | [] => []
  | a :: as => if a.isOff b then deleteAll b as else delete b a :: deleteAll b as
end

mutual
/-- An action without what is switched off in it, when it is run in this world. -/
def prune : Action → World → Action
  | .sequence name actor actions, w => .sequence name actor (pruneAll actions w)
  | .conditional name actor condition actions, w =>
    .conditional name actor condition
      (pruneAll actions (outcome (Run.draw fun c => c.holds condition) w).2)
  | .echo message, _ => .echo message
  | .fail message, _ => .fail message
  | .sleep milliseconds, _ => .sleep milliseconds
  | .createVariables vars, _ => .createVariables vars
  | .send s, _ => .send s
  | .receive r, _ => .receive r
  | .custom name actor body, _ => .custom name actor body

/-- Actions without those that are switched off, when they are run in order from this world. -/
def pruneAll : List Action → World → List Action
  | [], _ => []
  | a :: as, w =>
    if a.isOff w.context.bindings then pruneAll as w
    else prune a w :: pruneAll as (outcome a.execute w).2
end

/-! ## The same run -/

mutual
theorem outcome_prune : ∀ (a : Action) (w : World),
    outcome (prune a w).execute w = outcome a.execute w
  | .sequence name actor actions, w => by
    rw [prune, execute, execute]
    exact Run.outcome_of_known (outcome_pure _ w) (outcome_pruneAll actions w)
  | .conditional name actor condition actions, w => by
    rw [prune, execute, execute]
    apply Run.outcome_of_known (outcome_pure _ w)
    rw [outcome_bind, outcome_bind]
    rcases outcome (Run.draw fun c => c.holds condition) w with ⟨e | _ | _, w'⟩
    · rfl
    · rfl
    · exact outcome_pruneAll actions w'
  | .echo _, _ | .fail _, _ | .sleep _, _ | .createVariables _, _ | .send _, _ | .receive _, _
  | .custom _ _ _, _ => by rw [prune]

theorem outcome_pruneAll : ∀ (as : List Action) (w : World),
    outcome (performAll (pruneAll as w)) w = outcome (performAll as) w
  | [], _ => by rw [pruneAll]
  | a :: as, w => by
    rw [pruneAll, performAll_cons, outcome_bind, outcome_perform]
    cases hoff : a.isOff w.context.bindings with
    | true =>
      rw [if_pos rfl, outcome_execute_of_isOff hoff]
      exact outcome_pruneAll as w
    | false =>
      rw [if_neg Bool.false_ne_true, performAll_cons, outcome_bind, outcome_perform,
        outcome_prune a w]
      rcases outcome a.execute w with ⟨e | state, w'⟩
      · rfl
      · exact outcome_pruneAll as w'
end

/-! ## Where names refer to the same things -/

/-- An action that is not built in changes neither what names refer to nor what is done by others
that are not built in. -/
def KeepsBindings : Action → Prop
  | .custom _ _ body => Leaves World.meanings body
  | _ => True

/-- What names refer to stays in a visit, if no processor changes it either. -/
theorem leavesAt_visit_meanings {a : Action} (h : a.KeepsBindings) {w : World}
    (hw : w.extensions.KeepBindings) : LeavesAt World.meanings a.visit w := by
  apply leavesAt_visit (g := World.meanings)
  · exact fun s _ => SendAction.leavesAt_run fun p _ => hw.preserves p
  · exact fun r _ => ReceiveAction.leavesAt_run fun p _ => hw.preserves p
  · rintro name actor body rfl
    exact h w

theorem meanings_execute {a : Action} (h : a.Hereditarily KeepsBindings) {w : World}
    (hw : w.extensions.KeepBindings) :
    (outcome a.execute w).2.meanings = w.meanings := by
  rw [← world_perform]
  exact leavesAt_perform (P := fun v => v.2.KeepBindings)
    (fun _ ha _ hw => leavesAt_visit_meanings ha hw) a h w hw

mutual
theorem prune_eq_delete : ∀ (a : Action), a.Hereditarily KeepsBindings →
    ∀ w : World, w.extensions.KeepBindings → prune a w = delete w.context.bindings a
  | .sequence name actor actions, h, w, hw => by
    rw [prune, delete, pruneAll_eq_deleteAll actions (fun _ hb => h.child hb) w hw]
  | .conditional name actor condition actions, h, w, hw => by
    have hdraw : (outcome (Run.draw fun c => c.holds condition) w).2.meanings = w.meanings :=
      (Run.leaves_draw _).map World.meanings w
    obtain ⟨hbindings, hextensions⟩ := Prod.mk.inj hdraw
    rw [← hextensions] at hw
    rw [prune, delete, pruneAll_eq_deleteAll actions (fun _ hb => h.child hb) _ hw, hbindings]
  | .echo _, _, _, _ | .fail _, _, _, _ | .sleep _, _, _, _ | .createVariables _, _, _, _
  | .send _, _, _, _ | .receive _, _, _, _ | .custom _ _ _, _, _, _ => by rw [prune, delete]

theorem pruneAll_eq_deleteAll : ∀ (as : List Action), (∀ a ∈ as, a.Hereditarily KeepsBindings) →
    ∀ w : World, w.extensions.KeepBindings → pruneAll as w = deleteAll w.context.bindings as
  | [], _, _, _ => by rw [pruneAll, deleteAll]
  | a :: as, h, w, hw => by
    have ha : a.Hereditarily KeepsBindings := h a List.mem_cons_self
    have has : ∀ b ∈ as, b.Hereditarily KeepsBindings :=
      fun b hb => h b (List.mem_cons_of_mem a hb)
    obtain ⟨hbindings, hextensions⟩ := Prod.mk.inj (meanings_execute ha hw)
    have hw' := hw
    rw [← hextensions] at hw'
    rw [pruneAll, deleteAll, pruneAll_eq_deleteAll as has w hw,
      pruneAll_eq_deleteAll as has _ hw', prune_eq_delete a ha w hw, hbindings]
end

end Action

/-! ## Test cases -/

namespace TestCase

open Rehearsal.Action Turn

/-- Without the actions that are switched off, the run ends in the same world and with the same
failure. Only the states of these actions are not recorded. -/
theorem runActions_pruneAll (as : List Action) (w : World) :
    ((runActions (pruneAll as w)).run w).run
      = let r := ((runActions as).run w).run
        ((r.1.1.filter (· ≠ .skipped), r.1.2), r.2) := by
  induction as generalizing w with
  | nil => rfl
  | cons a as ih =>
    rw [pruneAll, runActions_cons]
    cases hoff : a.isOff w.context.bindings with
    | true =>
      rw [if_pos rfl, outcome_execute_of_isOff hoff, ih]
      rfl
    | false =>
      rw [if_neg Bool.false_ne_true, runActions_cons, outcome_prune]
      have hstate : (outcome a.execute w).1 ≠ .ok .skipped := by
        rw [Ne, outcome_execute_eq_skipped_iff, hoff]
        exact Bool.false_ne_true
      rcases he : outcome a.execute w with ⟨e | state, w'⟩
      · rfl
      · rw [he] at hstate
        have hne : state ≠ .skipped := fun h => hstate (congrArg Except.ok h)
        dsimp only
        rw [ih, List.filter_cons_of_pos (by simpa using hne)]

theorem Turn.state_eq_skipped_iff (x : Turn) :
    x.state = .skipped ↔ x.action.isOff x.world.context.bindings = true := by
  rw [← outcome_execute_eq_skipped_iff, state, ended]
  cases (outcome x.action.execute x.world).1 with
  | ok s => simp
  | error e => simp

theorem meanings_of_mem_inOrder {as : List Action} (h : ∀ a ∈ as, a.Hereditarily KeepsBindings)
    {w : World} (hw : w.extensions.KeepBindings) {x : Turn} (hx : x ∈ inOrder w as) :
    x.world.meanings = w.meanings := by
  induction as generalizing w with
  | nil => cases hx
  | cons a as ih =>
    rcases List.mem_cons.1 hx with rfl | hx
    · rfl
    · have hmeanings := meanings_execute (h a List.mem_cons_self) hw
      have hw' : (outcome a.execute w).2.extensions.KeepBindings := by
        rwa [← (Prod.mk.inj hmeanings).2] at hw
      exact (ih (fun b hb => h b (List.mem_cons_of_mem a hb)) hw' hx).trans hmeanings

/-- Actions that are switched off can be deleted, wherever they stand and whatever they hold: the
run ends in the same world and with the same failure. In the run with them, the states are those of
the turns up to the first failure, and just those of the actions that are switched off say so. Where
no action and no processor changes what names refer to, it is known before the run which actions
these are. -/
theorem deletion_transparent (as : List Action) (w : World) :
    ((runActions (pruneAll as w)).run w).run
        = (((((runActions as).run w).run.1.1.filter (· ≠ .skipped)),
          ((runActions as).run w).run.1.2), ((runActions as).run w).run.2)
      ∧ ((runActions as).run w).run.1.1 = (upToFailure (inOrder w as)).map state
      ∧ (∀ x ∈ upToFailure (inOrder w as),
        x.state = .skipped ↔ x.action.isOff x.world.context.bindings = true)
      ∧ ((∀ a ∈ as, a.Hereditarily KeepsBindings) → w.extensions.KeepBindings →
        pruneAll as w = deleteAll w.context.bindings as
          ∧ ∀ x ∈ upToFailure (inOrder w as),
            x.state = .skipped ↔ x.action.isOff w.context.bindings = true) := by
  refine ⟨runActions_pruneAll as w, ?_, fun x _ => x.state_eq_skipped_iff, ?_⟩
  · obtain ⟨w', hrun⟩ := runActions_turns as w
    rw [hrun]
  · intro h hw
    refine ⟨pruneAll_eq_deleteAll as h w hw, ?_⟩
    intro x hx
    have hmem : x ∈ inOrder w as := (upToFailure_isPrefix _).subset hx
    have hbindings : x.world.context.bindings = w.context.bindings :=
      congrArg Prod.fst (meanings_of_mem_inOrder h hw hmem)
    rw [x.state_eq_skipped_iff, hbindings]

/-- A container that is switched off and would fail, and one with an action that is switched off and
has no endpoint. -/
def halfIdle : List Action :=
  let off : Actor := { name := "clerk", disabled := true }
  [.sequence "idle" (some off) [.fail "no"],
    .sequence "busy" none [.receive { actor := some off, endpoint := .named "nowhere" }, .sleep 1]]

theorem deletion_transparent_halfIdle :
    deleteAll .empty halfIdle = [.sequence "busy" none [.sleep 1]]
      ∧ ((runActions halfIdle).run World.initial).run.1.1 = [.skipped, .done]
      ∧ ((runActions (deleteAll .empty halfIdle)).run World.initial).run
        = (([.done], none), ((runActions halfIdle).run World.initial).run.2) := by
  obtain ⟨hrun, -, -, hdelete⟩ := deletion_transparent halfIdle World.initial
  have hkeeps : ∀ a ∈ halfIdle, a.Hereditarily KeepsBindings := by
    simp [halfIdle, Hereditarily, nodes, nodesOfAll, KeepsBindings]
  rw [(hdelete hkeeps fun _ _ => rfl).1] at hrun
  exact ⟨rfl, rfl, hrun⟩

end TestCase
end Rehearsal
