import Rehearsal.Proofs.Action.Visit

/-!
# Agendas

An agenda lists the actions that are still to be run, each with the names of the containers that it
stands in. To visit the first action takes it from the agenda; a container that is entered gives way
to what it holds, in the same place. Main statements: a run is the run of its agenda, one visit
after the other (`outcome_perform_of_reaches`); it succeeds if all actions have been visited, and it
fails with the first visit that fails (`outcome_performAll_eq_ok`, `outcome_performAll_eq_error`).
It keeps what each of its visits keeps (`Reaches.keeps`).
-/

namespace Rehearsal

/-! ## Wrapped errors -/

namespace Error

/-- An error wrapped with the names of actions, the outermost one first. -/
def wrap : List String → Error → Error
  | [], e => e
  | n :: ns, e => .execution n (wrap ns e)

/-- The error has not come out of an action yet. -/
def IsUnwrapped (e : Error) : Prop := ∀ action cause, e ≠ .execution action cause

variable {e : Error}

theorem wrap_concat (ns : List String) (n : String) (e : Error) :
    wrap (ns ++ [n]) e = wrap ns (.execution n e) := by
  induction ns with
  | nil => rfl
  | cons m ns ih => rw [List.cons_append, wrap, ih, wrap]

theorem rootCause_wrap (ns : List String) (e : Error) : (wrap ns e).rootCause = e.rootCause := by
  induction ns with
  | nil => rfl
  | cons n ns ih => exact ih

theorem wrapDepth_wrap (ns : List String) (e : Error) :
    (wrap ns e).wrapDepth = ns.length + e.wrapDepth := by
  induction ns with
  | nil => simp [wrap]
  | cons n ns ih =>
    rw [wrap, wrapDepth, ih, List.length_cons]
    omega

theorem rootCause_of_isUnwrapped (h : e.IsUnwrapped) : e.rootCause = e := by
  cases e with
  | execution action cause => exact absurd rfl (h action cause)
  | _ => rfl

theorem wrapDepth_of_isUnwrapped (h : e.IsUnwrapped) : e.wrapDepth = 0 := by
  cases e with
  | execution action cause => exact absurd rfl (h action cause)
  | _ => rfl

theorem failedAction?_of_isUnwrapped (h : e.IsUnwrapped) : e.failedAction? = none := by
  cases e with
  | execution action cause => exact absurd rfl (h action cause)
  | _ => rfl

/-- The innermost wrapper names the action that failed. -/
theorem failedAction?_wrap (ns : List String) (n : String) (h : e.IsUnwrapped) :
    (wrap (ns ++ [n]) e).failedAction? = some n := by
  induction ns with
  | nil => simp [wrap, failedAction?, failedAction?_of_isUnwrapped h]
  | cons m ns ih => rw [List.cons_append, wrap, failedAction?, ih, Option.getD_some]

end Error

namespace Run

variable {α β : Type}

/-- Wrap the error of a computation with the names of actions, the outermost one first. -/
def withinAll (names : List String) (x : Run α) : Run α := names.foldr within x

theorem withinAll_bind (names : List String) (x : Run α) (f : α → Run β) :
    withinAll names (x >>= f) = withinAll names x >>= fun a => withinAll names (f a) := by
  induction names with
  | nil => rfl
  | cons n ns ih =>
    show within n (withinAll ns (x >>= f)) = _
    rw [ih, within_bind]
    rfl

theorem withinAll_pure (names : List String) (a : α) : withinAll names (pure a) = pure a := by
  induction names with
  | nil => rfl
  | cons n ns ih =>
    show within n (withinAll ns (pure a)) = _
    rw [ih, within_pure]

theorem withinAll_concat (names : List String) (n : String) (x : Run α) :
    withinAll (names ++ [n]) x = withinAll names (within n x) := by
  rw [withinAll, List.foldr_append]
  rfl

theorem outcome_withinAll_of_ok {names : List String} {x : Run α} {w w' : World} {a : α}
    (h : outcome x w = (.ok a, w')) : outcome (withinAll names x) w = (.ok a, w') := by
  induction names with
  | nil => exact h
  | cons n ns ih =>
    show outcome (within n (withinAll ns x)) w = _
    rw [outcome_within, ih]

theorem outcome_withinAll_of_error {names : List String} {x : Run α} {w w' : World} {e : Error}
    (h : outcome x w = (.error e, w')) :
    outcome (withinAll names x) w = (.error (e.wrap names), w') := by
  induction names with
  | nil => exact h
  | cons n ns ih =>
    show outcome (within n (withinAll ns x)) w = _
    rw [outcome_within, ih]
    rfl

end Run

/-! ## Agendas -/

/-- An action that is still to be run, with the names of the containers that it stands in, the
outermost one first. -/
structure Pending where
  path : List String
  action : Action

abbrev Agenda := List Pending

namespace Agenda

/-- Actions that stand in the same containers. -/
def inside (path : List String) (as : List Action) : Agenda := as.map (⟨path, ·⟩)

/-- Run what is on an agenda, in order; errors are wrapped with the names of the containers. -/
def perform : Agenda → Run Unit
  | [] => pure ()
  | p :: rest => do
    Run.withinAll p.path p.action.perform
    perform rest

/-- From an agenda and a world a run comes to another agenda and world, by visits that succeed. What
a visit gives stands in front of the rest. -/
inductive Reaches : Agenda → World → Agenda → World → Prop
  | refl (agenda : Agenda) (w : World) : Reaches agenda w agenda w
  | visit {path : List String} {a : Action} {rest agenda : Agenda} {as : List Action}
      {w w' w'' : World} (h : outcome a.visit w = (.ok as, w'))
      (hr : Reaches (inside (path ++ [a.name]) as ++ rest) w' agenda w'') :
      Reaches (⟨path, a⟩ :: rest) w agenda w''

theorem Reaches.trans {A B C : Agenda} {u v w : World} (h : Reaches A u B v)
    (h' : Reaches B v C w) : Reaches A u C w := by
  induction h with
  | refl => exact h'
  | visit hv _ ih => exact .visit hv (ih h')

theorem perform_inside_append (path : List String) (as : List Action) (rest : Agenda) :
    perform (inside path as ++ rest)
      = Run.withinAll path (Action.performAll as) >>= fun _ => perform rest := by
  induction as with
  | nil =>
    rw [Action.performAll_nil, Run.withinAll_pure, pure_bind, inside, List.map_nil,
      List.nil_append]
  | cons a as ih =>
    have hcons : perform (inside path (a :: as) ++ rest)
        = Run.withinAll path a.perform >>= fun _ => perform (inside path as ++ rest) := rfl
    rw [hcons, ih, Action.performAll_cons, Run.withinAll_bind, bind_assoc]

theorem perform_inside_nil (as : List Action) : perform (inside [] as) = Action.performAll as := by
  have h := perform_inside_append [] as []
  rw [List.append_nil] at h
  rw [h]
  simp [Run.withinAll, perform]

theorem withinAll_perform (path : List String) (a : Action) :
    Run.withinAll path a.perform
      = Run.withinAll (path ++ [a.name]) (a.visit >>= Action.performAll) := by
  rw [Action.perform_eq, Run.withinAll_concat]

/-- One visit that succeeds. -/
theorem outcome_perform_cons_of_ok {path : List String} {a : Action} {rest : Agenda}
    {as : List Action} {w w' : World} (h : outcome a.visit w = (.ok as, w')) :
    outcome (perform (⟨path, a⟩ :: rest)) w
      = outcome (perform (inside (path ++ [a.name]) as ++ rest)) w' := by
  rw [perform, withinAll_perform, Run.withinAll_bind, bind_assoc,
    outcome_bind_of_ok (Run.outcome_withinAll_of_ok h), perform_inside_append]

/-- A visit that fails ends the run. -/
theorem outcome_perform_cons_of_error {path : List String} {a : Action} {rest : Agenda}
    {w w' : World} {cause : Error} (h : outcome a.visit w = (.error cause, w')) :
    outcome (perform (⟨path, a⟩ :: rest)) w = (.error (cause.wrap (path ++ [a.name])), w') := by
  rw [perform, withinAll_perform, Run.withinAll_bind, bind_assoc]
  exact outcome_bind_of_error (Run.outcome_withinAll_of_error h)

/-- What a run comes to has the same outcome. -/
theorem outcome_perform_of_reaches {A B : Agenda} {u v : World} (h : Reaches A u B v) :
    outcome (perform A) u = outcome (perform B) v := by
  induction h with
  | refl => rfl
  | visit hv _ ih => rw [outcome_perform_cons_of_ok hv, ih]

/-! ## The end of a run -/

/-- A run comes to a visit that fails. -/
def Fails (agenda : Agenda) (w : World) : Prop := ∃ path a rest w' cause w'',
  Reaches agenda w (⟨path, a⟩ :: rest) w' ∧ outcome a.visit w' = (.error cause, w'')

/-- A run comes to the rest of its agenda, or to a visit that fails before. -/
def Passes (agenda rest : Agenda) (w : World) : Prop :=
  (∃ w', Reaches agenda w rest w') ∨ Fails agenda w

theorem Fails.of_reaches {A B : Agenda} {u v : World} (h : Reaches A u B v) (hf : Fails B v) :
    Fails A u := by
  obtain ⟨path, a, rest, w', cause, w'', hr, hv⟩ := hf
  exact ⟨path, a, rest, w', cause, w'', h.trans hr, hv⟩

theorem Passes.trans {A B C : Agenda} {w : World} (h : Passes A B w)
    (h' : ∀ w, Passes B C w) : Passes A C w := by
  rcases h with ⟨w', hr⟩ | hf
  · rcases h' w' with ⟨w'', hr'⟩ | hf'
    · exact .inl ⟨w'', hr.trans hr'⟩
    · exact .inr (hf'.of_reaches hr)
  · exact .inr hf

theorem passes_of_children (a : Action)
    (h : ∀ path rest w, Passes (inside path a.children ++ rest) rest w) (path : List String)
    (rest : Agenda) (w : World) : Passes (⟨path, a⟩ :: rest) rest w := by
  cases hv : outcome a.visit w with
  | mk result w' =>
    cases result with
    | error cause => exact .inr ⟨path, a, rest, w, cause, w', .refl _ _, hv⟩
    | ok as =>
      -- what the visit gives is nothing or all children, and both lead to the rest
      have hstep : ∀ {B : Agenda} {v : World},
          Reaches (inside (path ++ [a.name]) as ++ rest) w' B v →
            Reaches (⟨path, a⟩ :: rest) w B v := fun hr => .visit hv hr
      rcases Action.eq_nil_or_eq_children hv with rfl | rfl
      · exact .inl ⟨w', hstep (.refl _ _)⟩
      · rcases h (path ++ [a.name]) rest w' with ⟨w'', hr⟩ | hf
        · exact .inl ⟨w'', hstep hr⟩
        · exact .inr (hf.of_reaches (hstep (.refl _ _)))

theorem passes_nil (rest : Agenda) (w : World) : Passes rest rest w := .inl ⟨w, .refl _ _⟩

mutual
/-- A run comes to what stands behind an action, or fails before. -/
theorem passes_action : ∀ (a : Action) (path : List String) (rest : Agenda) (w : World),
    Passes (⟨path, a⟩ :: rest) rest w
  | .sequence _ _ actions => passes_of_children _ (passes_actions actions)
  | .conditional _ _ _ actions => passes_of_children _ (passes_actions actions)
  | .echo _ => passes_of_children _ fun _ => passes_nil
  | .fail _ => passes_of_children _ fun _ => passes_nil
  | .sleep _ => passes_of_children _ fun _ => passes_nil
  | .createVariables _ => passes_of_children _ fun _ => passes_nil
  | .send _ => passes_of_children _ fun _ => passes_nil
  | .receive _ => passes_of_children _ fun _ => passes_nil
  | .custom _ _ _ => passes_of_children _ fun _ => passes_nil

theorem passes_actions : ∀ (as : List Action) (path : List String) (rest : Agenda) (w : World),
    Passes (inside path as ++ rest) rest w
  | [], _, rest, w => passes_nil rest w
  | a :: as, path, rest, w =>
    (passes_action a path (inside path as ++ rest) w).trans (passes_actions as path rest)
end

/-- A run comes to its end, or to a visit that fails. -/
theorem passes_all (as : List Action) (w : World) : Passes (inside [] as) [] w := by
  have h := passes_actions as [] [] w
  rwa [List.append_nil] at h

/-- A run succeeds if all actions on its agenda have been visited. -/
theorem outcome_performAll_eq_ok {as : List Action} {w w' : World} :
    outcome (Action.performAll as) w = (.ok (), w') ↔ Reaches (inside [] as) w [] w' := by
  rw [← perform_inside_nil]
  constructor
  · intro h
    -- the run comes to one of two ends, and its outcome tells which one
    rcases passes_all as w with ⟨w'', hr⟩ | ⟨path, a, rest, w₁, cause, w₂, hr, hv⟩
    · rw [outcome_perform_of_reaches hr, perform, outcome_pure] at h
      cases h
      exact hr
    · rw [outcome_perform_of_reaches hr, outcome_perform_cons_of_error hv] at h
      cases h
  · intro hr
    rw [outcome_perform_of_reaches hr]
    rfl

/-- A run fails with the first visit that fails, and nothing behind it on the agenda is run. -/
theorem outcome_performAll_eq_error {as : List Action} {w w' : World} {e : Error} :
    outcome (Action.performAll as) w = (.error e, w') ↔ ∃ path a rest w₁ cause,
      Reaches (inside [] as) w (⟨path, a⟩ :: rest) w₁ ∧ outcome a.visit w₁ = (.error cause, w')
        ∧ e = cause.wrap (path ++ [a.name]) := by
  rw [← perform_inside_nil]
  constructor
  · intro h
    rcases passes_all as w with ⟨w'', hr⟩ | ⟨path, a, rest, w₁, cause, w₂, hr, hv⟩
    · rw [outcome_perform_of_reaches hr, perform, outcome_pure] at h
      cases h
    · rw [outcome_perform_of_reaches hr, outcome_perform_cons_of_error hv] at h
      cases h
      exact ⟨path, a, rest, w₁, cause, hr, hv, rfl⟩
  · rintro ⟨path, a, rest, w₁, cause, hr, hv, rfl⟩
    rw [outcome_perform_of_reaches hr, outcome_perform_cons_of_error hv]

end Agenda

/-! ## Invariants -/

namespace Action

mutual
/-- The action and all actions in it, at any depth. -/
def nodes : Action → List Action
  | .sequence name actor actions => .sequence name actor actions :: nodesOfAll actions
  | .conditional name actor condition actions =>
    .conditional name actor condition actions :: nodesOfAll actions
  | a => [a]

def nodesOfAll : List Action → List Action
  | [] => []
  | a :: as => nodes a ++ nodesOfAll as
end

theorem nodes_eq (a : Action) : a.nodes = a :: nodesOfAll a.children := by
  cases a <;> simp [nodes, nodesOfAll, children]

theorem mem_nodesOfAll {b : Action} {as : List Action} :
    b ∈ nodesOfAll as ↔ ∃ a ∈ as, b ∈ a.nodes := by
  induction as with
  | nil => simp [nodesOfAll]
  | cons a as ih => simp [nodesOfAll, ih]

/-- Something holds of an action and of all actions in it. -/
def Hereditarily (C : Action → Prop) (a : Action) : Prop := ∀ b ∈ a.nodes, C b

variable {C : Action → Prop} {a b : Action}

theorem Hereditarily.self (h : a.Hereditarily C) : C a := by
  apply h
  rw [nodes_eq]
  exact List.mem_cons_self

theorem Hereditarily.child (h : a.Hereditarily C) (hb : b ∈ a.children) : b.Hereditarily C := by
  intro c hc
  apply h
  rw [nodes_eq]
  exact List.mem_cons_of_mem _ (mem_nodesOfAll.2 ⟨b, hb, hc⟩)

end Action

namespace Agenda

/-- A run keeps what each of its visits keeps, and comes only to actions that stood in those on its
agenda. -/
theorem Reaches.keeps {I : World → Prop} {C : Action → Prop}
    (hvisit : ∀ a w as w', C a → I w → outcome a.visit w = (.ok as, w') → I w') {A B : Agenda}
    {w w' : World} (h : Reaches A w B w') (hw : I w) (hA : ∀ p ∈ A, p.action.Hereditarily C) :
    I w' ∧ ∀ p ∈ B, p.action.Hereditarily C := by
  induction h with
  | refl A w => exact ⟨hw, hA⟩
  | @visit path a rest B as w w' w'' hv _ ih =>
    have ha : a.Hereditarily C := hA ⟨path, a⟩ List.mem_cons_self
    have hchild : ∀ b ∈ as, b.Hereditarily C := by
      intro b hb
      rcases Action.eq_nil_or_eq_children hv with rfl | rfl
      · cases hb
      · exact ha.child hb
    -- on the new agenda stand the children of the action, and what stood behind it
    refine ih (hvisit a w as w' ha.self hw hv) fun p hp => ?_
    rcases List.mem_append.1 hp with hp | hp
    · obtain ⟨b, hb, rfl⟩ := List.mem_map.1 hp
      exact hchild b hb
    · exact hA p (List.mem_cons_of_mem _ hp)

end Agenda
end Rehearsal
