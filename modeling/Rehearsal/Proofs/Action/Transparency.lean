import Rehearsal.Proofs.Action.Agenda
import Rehearsal.Proofs.Scope.Purity

/-!
# Containers are transparent

What a container holds can stand in its place: the run leaves the same world and succeeds or fails
as before. A place in a tree of actions is a `Hole`, with what stands around it on every level.
Main statement: this for sequences that are not switched off and for conditionals whose condition
holds where they are reached, with the order in which the actions are visited and the wrappers of an
error (`containers_transparent`).
-/

namespace Rehearsal

/-! ## The same effect -/

namespace Run

variable {α : Type}

/-- Both computations leave the same world, and both succeed or both fail. -/
def SameEffect (x y : Run Unit) (w : World) : Prop :=
  (outcome x w).2 = (outcome y w).2 ∧ (outcome x w).1.isOk = (outcome y w).1.isOk

theorem SameEffect.refl (x : Run Unit) (w : World) : SameEffect x x w := ⟨rfl, rfl⟩

theorem sameEffect_within (action : String) (x : Run Unit) (w : World) :
    SameEffect (within action x) x w := by
  rw [SameEffect, outcome_within]
  rcases outcome x w with ⟨e | a, w'⟩ <;> exact ⟨rfl, rfl⟩

theorem SameEffect.trans {x y z : Run Unit} {w : World} (h : SameEffect x y w)
    (h' : SameEffect y z w) : SameEffect x z w := ⟨h.1.trans h'.1, h.2.trans h'.2⟩

theorem SameEffect.symm {x y : Run Unit} {w : World} (h : SameEffect x y w) : SameEffect y x w :=
  ⟨h.1.symm, h.2.symm⟩

/-- What comes next has the same effect where the first part succeeds. -/
theorem sameEffect_bind (x : Run α) {f g : α → Run Unit} {w : World}
    (h : ∀ a w', outcome x w = (.ok a, w') → SameEffect (f a) (g a) w') :
    SameEffect (x >>= f) (x >>= g) w := by
  rw [SameEffect, outcome_bind, outcome_bind]
  rcases hx : outcome x w with ⟨e | a, w'⟩
  · exact ⟨rfl, rfl⟩
  · exact h a w' hx

/-- The first parts have the same effect, and what comes next is the same. -/
theorem SameEffect.bind {x y : Run Unit} {w : World} (h : SameEffect x y w) (z : Run Unit) :
    SameEffect (x >>= fun _ => z) (y >>= fun _ => z) w := by
  obtain ⟨hw, hok⟩ := h
  rw [SameEffect, outcome_bind, outcome_bind]
  rcases hx : outcome x w with ⟨e | a, w₁⟩ <;> rcases hy : outcome y w with ⟨e' | b, w₂⟩
  · rw [hx, hy] at hw
    exact ⟨hw, rfl⟩
  · rw [hx, hy] at hok
    cases hok
  · rw [hx, hy] at hok
    cases hok
  · rw [hx, hy] at hw
    obtain rfl : w₁ = w₂ := hw
    exact ⟨rfl, rfl⟩

end Run

open Run (SameEffect)

namespace Action

/-! ## Places in a tree -/

/-- A place in a list of actions, or in what a container of the list holds, with all that stands
around it. -/
inductive Hole
  | here (before after : List Action)
  | sequence (before : List Action) (name : String) (actor : Option Actor) (hole : Hole)
      (after : List Action)
  | conditional (before : List Action) (name : String) (actor : Option Actor) (condition : String)
      (hole : Hole) (after : List Action)

namespace Hole

/-- The list with these actions in the place. -/
def fill : Hole → List Action → List Action
  | .here before after, as => before ++ (as ++ after)
  | .sequence before name actor hole after, as =>
    before ++ .sequence name actor (hole.fill as) :: after
  | .conditional before name actor condition hole after, as =>
    before ++ .conditional name actor condition (hole.fill as) :: after

/-- The names of the containers around the place, the outermost one first. -/
def path : Hole → List String
  | .here _ _ => []
  | .sequence _ name _ hole _ => name :: hole.path
  | .conditional _ name _ _ hole _ => name :: hole.path

/-- A run that begins in one world comes to the place in another one. -/
inductive Reached : Hole → World → World → Prop
  | here {before after : List Action} {w w' : World}
      (hb : outcome (performAll before) w = (.ok (), w')) : Reached (.here before after) w w'
  | sequence {before after : List Action} {name : String} {actor : Option Actor} {hole : Hole}
      {w w₁ w' : World} (hb : outcome (performAll before) w = (.ok (), w₁))
      (he : actor.any (·.disabled) = false) (hr : Reached hole w₁ w') :
      Reached (.sequence before name actor hole after) w w'
  | conditional {before after : List Action} {name : String} {actor : Option Actor}
      {condition : String} {hole : Hole} {w w₁ w₂ w' : World}
      (hb : outcome (performAll before) w = (.ok (), w₁)) (he : actor.any (·.disabled) = false)
      (hc : outcome (Run.draw fun c => c.holds condition) w₁ = (.ok true, w₂))
      (hr : Reached hole w₂ w') :
      Reached (.conditional before name actor condition hole after) w w'

end Hole

/-! ## Containers -/

theorem performAll_singleton (a : Action) : performAll [a] = a.perform := by
  simp [performAll_cons, performAll_nil]

theorem sameEffect_perform (a : Action) (w : World) :
    SameEffect a.perform (a.visit >>= performAll) w := by
  rw [perform_eq]
  exact Run.sameEffect_within a.name _ w

theorem visit_sequence (name : String) {actor : Option Actor} (as : List Action)
    (he : actor.any (·.disabled) = false) : visit (.sequence name actor as) = pure as := by
  simp [visit, disabled, actor?, he, enter]

theorem visit_conditional (name : String) {actor : Option Actor} (condition : String)
    (as : List Action) (he : actor.any (·.disabled) = false) :
    visit (.conditional name actor condition as)
      = Run.draw (fun c => c.holds condition) >>= fun b => if b then pure as else pure [] := by
  simp [visit, disabled, actor?, he, enter]

theorem visit_of_disabled {a : Action} (h : a.disabled = pure true) : a.visit = pure [] := by
  rw [visit, h, pure_bind]
  rfl

/-- Two actions in the same place of a list have the same effect if their visits do. -/
theorem sameEffect_performAll_around {before after : List Action} {a b : Action} {w : World}
    (h : ∀ w', outcome (performAll before) w = (.ok (), w') →
      SameEffect (a.visit >>= performAll) (b.visit >>= performAll) w') :
    SameEffect (performAll (before ++ a :: after)) (performAll (before ++ b :: after)) w := by
  rw [performAll_append, performAll_append, performAll_cons, performAll_cons]
  apply Run.sameEffect_bind
  rintro ⟨⟩ w' hb
  apply SameEffect.bind
  exact (sameEffect_perform a w').trans ((h w' hb).trans (sameEffect_perform b w').symm)

/-- The effect of a list depends on the effect of what is in a place where it is reached. -/
theorem sameEffect_fill {as bs : List Action} : ∀ (hole : Hole) {w : World},
    (∀ w', hole.Reached w w' → SameEffect (performAll as) (performAll bs) w') →
      SameEffect (performAll (hole.fill as)) (performAll (hole.fill bs)) w := by
  -- by induction on the place; a container in which it is not reached does the same in both lists
  intro hole
  induction hole with
  | here before after =>
    intro w h
    rw [Hole.fill, Hole.fill, performAll_append before, performAll_append as,
      performAll_append before, performAll_append bs]
    apply Run.sameEffect_bind
    rintro ⟨⟩ w' hb
    exact (h w' (.here hb)).bind _
  | sequence before name actor hole after ih =>
    intro w h
    apply sameEffect_performAll_around
    intro w₁ hb
    cases he : actor.any (·.disabled) with
    | true =>
      have hdis : ∀ cs, visit (.sequence name actor cs) = pure [] := fun cs =>
        visit_of_disabled (by simp [disabled, actor?, he])
      rw [hdis, hdis]
      exact .refl _ _
    | false =>
      rw [visit_sequence name _ he, visit_sequence name _ he, pure_bind, pure_bind]
      exact ih fun w' hr => h w' (.sequence hb he hr)
  | conditional before name actor condition hole after ih =>
    intro w h
    apply sameEffect_performAll_around
    intro w₁ hb
    cases he : actor.any (·.disabled) with
    | true =>
      have hdis : ∀ cs, visit (.conditional name actor condition cs) = pure [] := fun cs =>
        visit_of_disabled (by simp [disabled, actor?, he])
      rw [hdis, hdis]
      exact .refl _ _
    | false =>
      rw [visit_conditional name condition _ he, visit_conditional name condition _ he, bind_assoc,
        bind_assoc]
      -- the condition is evaluated in the world that the actions in front leave
      apply Run.sameEffect_bind
      intro b w₂ hc
      cases b with
      | true => exact ih fun w' hr => h w' (.conditional hb he hc hr)
      | false => exact .refl _ _

/-! ## Failing in a place -/

/-- Where a visit fails, so does running its action. -/
theorem outcome_perform_of_error {a : Action} {w w' : World} {cause : Error}
    (h : outcome a.visit w = (.error cause, w')) :
    outcome a.perform w = (.error (.execution a.name cause), w') := by
  rw [perform_eq, Run.outcome_within, outcome_bind_of_error h]

/-- An action that is visited with success gives way to what is run after that. -/
theorem outcome_perform_of_visit {a : Action} {as : List Action} {w w₁ w' : World} {e : Error}
    (hv : outcome a.visit w = (.ok as, w₁)) (h : outcome (performAll as) w₁ = (.error e, w')) :
    outcome a.perform w = (.error (.execution a.name e), w') := by
  rw [perform_eq, Run.outcome_within, outcome_bind_of_ok hv, h]

theorem outcome_performAll_of_error {before after : List Action} {a : Action} {w w₁ w' : World}
    {e : Error} (hb : outcome (performAll before) w = (.ok (), w₁))
    (h : outcome a.perform w₁ = (.error e, w')) :
    outcome (performAll (before ++ a :: after)) w = (.error e, w') := by
  rw [performAll_append, outcome_bind_of_ok hb, performAll_cons]
  exact outcome_bind_of_error h

/-- What fails where it is reached fails the whole run, whatever stands behind it on any level. -/
theorem outcome_fill_of_error {hole : Hole} {as : List Action} {w w₁ w' : World} {e : Error}
    (hr : hole.Reached w w₁) (h : outcome (performAll as) w₁ = (.error e, w')) :
    outcome (performAll (hole.fill as)) w = (.error (e.wrap hole.path), w') := by
  induction hr with
  | here hb =>
    rw [Hole.fill, performAll_append, outcome_bind_of_ok hb, performAll_append]
    exact outcome_bind_of_error h
  | @sequence before after name actor hole w w₁ w₂ hb he hr ih =>
    refine outcome_performAll_of_error hb (outcome_perform_of_visit ?_ (ih h))
    rw [visit_sequence name _ he, outcome_pure]
  | @conditional before after name actor condition hole w w₁ w₂ w₃ hb he hc hr ih =>
    refine outcome_performAll_of_error hb (outcome_perform_of_visit ?_ (ih h))
    rw [visit_conditional name condition _ he, outcome_bind_of_ok hc]
    rfl

/-! ## Inlining -/

variable {name condition : String} {actor : Option Actor} {w : World}

/-- What a sequence holds has the effect of the sequence. -/
theorem sameEffect_sequence (as : List Action) (he : actor.any (·.disabled) = false) :
    SameEffect (performAll [.sequence name actor as]) (performAll as) w := by
  have h := sameEffect_perform (.sequence name actor as) w
  rwa [visit_sequence name as he, pure_bind, ← performAll_singleton] at h

/-- What a conditional holds has the effect of the conditional, if its condition holds and takes no
random numbers. -/
theorem sameEffect_conditional (as : List Action) (he : actor.any (·.disabled) = false)
    (hc : outcome (Run.draw fun c => c.holds condition) w = (.ok true, w)) :
    SameEffect (performAll [.conditional name actor condition as]) (performAll as) w := by
  have h := sameEffect_perform (.conditional name actor condition as) w
  rw [visit_conditional name condition as he, bind_assoc, ← performAll_singleton] at h
  refine h.trans ?_
  rw [SameEffect, outcome_bind_of_ok hc, if_pos rfl, pure_bind]
  exact SameEffect.refl _ _

/-- A conditional that is emptied still evaluates its condition, and nothing else. -/
theorem outcome_emptied (he : actor.any (·.disabled) = false) {w' : World}
    (hc : outcome (Run.draw fun c => c.holds condition) w = (.ok true, w')) :
    outcome (perform (.conditional name actor condition [])) w = (.ok (), w') := by
  have hvisit : outcome (visit (.conditional name actor condition [])) w = (.ok [], w') := by
    rw [visit_conditional name condition [] he, outcome_bind_of_ok hc]
    rfl
  rw [perform_eq, Run.outcome_within, outcome_bind_of_ok hvisit, performAll_nil, outcome_pure]

/-- What a conditional holds can stand behind it, if its condition holds. -/
theorem sameEffect_emptied (as : List Action) (he : actor.any (·.disabled) = false) {w' : World}
    (hc : outcome (Run.draw fun c => c.holds condition) w = (.ok true, w')) :
    SameEffect (performAll [.conditional name actor condition as])
      (performAll (.conditional name actor condition [] :: as)) w := by
  have h := sameEffect_perform (.conditional name actor condition as) w
  rw [visit_conditional name condition as he, bind_assoc, ← performAll_singleton] at h
  refine h.trans ?_
  rw [SameEffect, outcome_bind_of_ok hc, if_pos rfl, pure_bind, performAll_cons,
    outcome_bind_of_ok (outcome_emptied he hc)]
  exact SameEffect.refl _ _

/-- Only a conditional and a leaf can fail themselves. -/
theorem visit_sequence_ne_error {as : List Action} {w' : World} {e : Error} :
    outcome (visit (.sequence name actor as)) w ≠ (.error e, w') := by
  cases he : actor.any (·.disabled) with
  | true =>
    rw [visit_of_disabled (by simp [disabled, actor?, he]), outcome_pure]
    simp
  | false =>
    rw [visit_sequence name as he, outcome_pure]
    simp

/-- Containers add one wrapper to errors and nothing else. What a sequence holds, and what a
conditional holds whose condition holds where it is reached, can stand in the place of the
container; the conditional stays in front, emptied, where its condition takes random numbers.
Actions are visited in the order of the agenda, up to the first that fails in its place, whatever
stands behind that; the error names the containers around it and then the action itself. -/
theorem containers_transparent (w : World) :
    (∀ (hole : Hole) (name : String) (actor : Option Actor) (as : List Action),
      actor.any (·.disabled) = false →
        SameEffect (performAll (hole.fill [.sequence name actor as]))
          (performAll (hole.fill as)) w)
      ∧ (∀ (hole : Hole) (name : String) (actor : Option Actor) (condition : String)
        (as : List Action), actor.any (·.disabled) = false →
          ((∀ w', hole.Reached w w' →
              outcome (Run.draw fun c => c.holds condition) w' = (.ok true, w')) →
            SameEffect (performAll (hole.fill [.conditional name actor condition as]))
              (performAll (hole.fill as)) w)
          ∧ ((∀ w', hole.Reached w w' →
              ∃ w'', outcome (Run.draw fun c => c.holds condition) w' = (.ok true, w'')) →
            SameEffect (performAll (hole.fill [.conditional name actor condition as]))
              (performAll (hole.fill (.conditional name actor condition [] :: as))) w))
      ∧ (∀ (as : List Action) (w' : World), outcome (performAll as) w = (.ok (), w')
        ↔ Agenda.Reaches (Agenda.inside [] as) w [] w')
      ∧ (∀ (as : List Action) (w' : World) (e : Error), outcome (performAll as) w = (.error e, w')
        ↔ ∃ path a rest w₁ cause, Agenda.Reaches (Agenda.inside [] as) w (⟨path, a⟩ :: rest) w₁
          ∧ outcome a.visit w₁ = (.error cause, w') ∧ e = cause.wrap (path ++ [a.name]))
      ∧ (∀ (hole : Hole) (a : Action) (after : List Action) (w₁ w' : World) (cause : Error),
        hole.Reached w w₁ → outcome a.visit w₁ = (.error cause, w') →
          outcome (performAll (hole.fill (a :: after))) w
            = (.error (cause.wrap (hole.path ++ [a.name])), w'))
      ∧ ∀ (a : Action) (w' : World) (cause : Error), outcome a.visit w = (.error cause, w') →
        (∀ name actor as, a ≠ .sequence name actor as)
          ∧ (cause.IsUnwrapped → ∀ path, (cause.wrap (path ++ [a.name])).wrapDepth = path.length + 1
            ∧ (cause.wrap (path ++ [a.name])).failedAction? = some a.name
            ∧ (cause.wrap (path ++ [a.name])).rootCause = cause) := by
  refine ⟨?_, ?_, ?_, ?_, ?_, ?_⟩
  · intro hole name actor as he
    exact sameEffect_fill hole fun w' _ => sameEffect_sequence as he
  · intro hole name actor condition as he
    constructor
    · intro hc
      exact sameEffect_fill hole fun w' hr => sameEffect_conditional as he (hc w' hr)
    · intro hc
      apply sameEffect_fill hole
      intro w' hr
      obtain ⟨w'', hc⟩ := hc w' hr
      exact sameEffect_emptied as he hc
  · exact fun as w' => Agenda.outcome_performAll_eq_ok
  · exact fun as w' e => Agenda.outcome_performAll_eq_error
  · intro hole a after w₁ w' cause hr hv
    have h : outcome (performAll (a :: after)) w₁ = (.error (.execution a.name cause), w') := by
      rw [performAll_cons]
      exact outcome_bind_of_error (outcome_perform_of_error hv)
    rw [outcome_fill_of_error hr h, Error.wrap_concat]
  · intro a w' cause hv
    constructor
    · rintro name actor as rfl
      exact visit_sequence_ne_error hv
    · intro hu path
      rw [Error.wrapDepth_wrap, Error.failedAction?_wrap _ _ hu, Error.rootCause_wrap,
        Error.wrapDepth_of_isUnwrapped hu, Error.rootCause_of_isUnwrapped hu]
      exact ⟨by simp, rfl, rfl⟩

/-- A place in a conditional in a sequence, with actions around it on every level. -/
def nestedHole : Hole :=
  .sequence [.custom "note" none (Run.bindVariable "x" (.text "1"))] "outer" none
    (.conditional [] "inner" none "true" (.here [.sleep 1] [.sleep 2]) [.sleep 3]) [.sleep 4]

/-- The world in which that place is reached. -/
def notedWorld : World where
  context := { vars := .insert .empty "x" (.text "1") }
  queues := .empty
  fresh := {}

theorem reached_nestedHole : nestedHole.Reached World.initial notedWorld := by
  have hcondition : Condition.decide? "true".toList = .ok true := by rfl
  have hholds : outcome (Run.draw fun c => c.holds "true") notedWorld = (.ok true, notedWorld) := by
    apply Run.outcome_draw_of_ok
    rw [Scope.holds, Scope.resolveChars_of_plain _ (by decide), pure_bind, hcondition]
    rfl
  exact .sequence rfl rfl (.conditional rfl rfl hholds (.here rfl))

theorem containers_transparent_nested :
    outcome (performAll (nestedHole.fill
        [.custom "refusal" none (throw (.validation (.other "no"))), .sleep 5])) World.initial
      = (.error (.execution "outer" (.execution "inner"
          (.execution "refusal" (.validation (.other "no"))))), notedWorld) := by
  obtain ⟨-, -, -, -, hfail, -⟩ := containers_transparent World.initial
  exact hfail nestedHole _ [.sleep 5] _ _ _ reached_nestedHole rfl

end Action
end Rehearsal
