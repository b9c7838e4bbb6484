import Rehearsal.Proofs.Outcome

/-!
# What steps change of the context

A dictionary changes the message only, whether it is built in or not. The other processors that are
built in change the scope of the context besides, and leave its background: the chain, the messages
that were stored, what names refer to and the rest of the setup. A processor that is not built in
may change all of the context. Main statements: what is seen of the background is changed by such
processors only (`Processor.leavesAt_runAll`), and where no processor of the chain changes it, no
message does on its way (`Processor.leavesAt_passes`).
-/

namespace Rehearsal

variable {α γ : Type}

/-- All of a context but its scope. -/
def Context.background (c : Context) : Context := { c with toScope := {} }

namespace Transit

/-- The context, and what is done by what is not built in. -/
def surroundings (t : Transit) : Context × Extensions := (t.context, t.extensions)

/-- What is seen of the background of the context, and what is done by what is not built in. -/
def view (f : Context → γ) (t : Transit) : γ × Extensions := (f t.context.background, t.extensions)

theorem leaves_view {x : Step α} (h : Leaves surroundings x) (f : Context → γ) :
    Leaves (view f) x := h.map fun s => (f s.1.background, s.2)

end Transit

namespace Step

theorem leaves_message (view : Transit → γ) : Leaves view Step.message := fun _ => rfl

theorem leaves_scope (view : Transit → γ) : Leaves view Step.scope := fun _ => rfl

theorem leaves_draw (d : Draw α) : Leaves Transit.surroundings (Step.draw d) := by
  intro t
  cases h : d.run t.fresh with
  | ok r => rw [LeavesAt, outcome_draw_of_ok h]; rfl
  | error e => rw [LeavesAt, outcome_draw_of_error h]

theorem leaves_bindVariable (f : Context → γ) (name : String) (value : Json) :
    Leaves (Transit.view f) (Step.bindVariable name value) := fun _ => rfl

theorem outcome_process (key : Nat) (t : Transit) :
    outcome (Step.process key) t = ((outcome (t.extensions.process key) t.toPassage).1,
      { t with toPassage := (outcome (t.extensions.process key) t.toPassage).2 }) :=
  outcome_liftM _ _

theorem outcome_translate (key : Nat) (t : Transit) :
    outcome (Step.translate key) t
      = let r := outcome (t.extensions.translate key t.context) (t.message, t.fresh)
        (r.1, { t with message := r.2.1, fresh := r.2.2 }) :=
  outcome_liftM _ _

end Step

/-- A dictionary sees the context and does not change it. -/
theorem Dictionary.leaves_translate (d : Dictionary) :
    Leaves Transit.surroundings d.translate := by
  unfold translate
  split
  · next key _ =>
    intro t
    rw [LeavesAt, Step.outcome_translate]
    rfl
  · exact leaves_bind (Step.leaves_message _) fun m => leaves_bind (Step.leaves_scope _) fun s =>
      leaves_bind (Step.leaves_draw _) fun payload => fun _ => rfl

namespace Processor

theorem dictionary?_eq_some {p : Processor} {d : Dictionary} :
    p.dictionary? = some d ↔ p = .dictionary d := by
  cases p <;> simp [dictionary?]

/-- The processor does not change what is seen of the background, if it is not built in. -/
def Preserves (x : Extensions) (f : Context → γ) : Processor → Prop
  | .custom _ key => Leaves (fun p => f p.context.background) (x.process key)
  | _ => True

theorem leaves_runHeaders (f : Context → γ) (mapping : List (String × String)) :
    Leaves (Transit.view f) (runHeaders mapping) := by
  induction mapping with
  | nil => exact leaves_pure ()
  | cons entry rest ih =>
    refine leaves_bind (Step.leaves_message _) fun m => ?_
    split
    · exact leaves_bind (Step.leaves_bindVariable f _ _) fun _ => ih
    · exact leaves_throw _

theorem leaves_runPaths (f : Context → γ) (document : Json) (mapping : List (String × String)) :
    Leaves (Transit.view f) (runPaths document mapping) := by
  induction mapping with
  | nil => exact leaves_pure ()
  | cons entry rest ih =>
    rw [runPaths]
    split
    · exact leaves_bind (Step.leaves_bindVariable f _ _) fun _ => ih
    · exact leaves_throw _

/-- Only a processor that is not built in changes the background. -/
theorem leavesAt_run {f : Context → γ} {p : Processor} {t : Transit}
    (h : p.Preserves t.extensions f) : LeavesAt (Transit.view f) p.run t := by
  cases p with
  | dictionary d => exact Transit.leaves_view d.leaves_translate f t
  | extractHeaders mapping => exact leaves_runHeaders f _ t
  | extractJson mapping =>
    rw [run]
    split
    · exact leaves_pure () t
    · refine leaves_bind (Step.leaves_message _) (fun m => ?_) t
      split
      · exact leaves_runPaths f _ _
      · exact leaves_throw _
  | simple direction g =>
    refine leaves_bind (Step.leaves_message _)
      (fun m => leaves_bind (Step.leaves_scope _) fun s => ?_) t
    split
    · exact fun _ => rfl
    · exact leaves_throw _
  | custom direction key =>
    rw [LeavesAt, run, Step.outcome_process]
    exact congrArg (·, t.extensions) (h t.toPassage)

theorem preserves_unit (x : Extensions) (p : Processor) :
    p.Preserves x fun _ : Context => () := by
  cases p with
  | custom direction key => exact fun _ => rfl
  | _ => exact trivial

/-- No processor changes what is done by what is not built in. -/
theorem extensions_run {p : Processor} {t t' : Transit} {r : Except Error Unit}
    (h : outcome p.run t = (r, t')) : t'.extensions = t.extensions :=
  congrArg Prod.snd ((leavesAt_run (p.preserves_unit t.extensions)).view_eq h)

/-- What is seen of the background is the same after processors that do not change it. -/
theorem leavesAt_runAll {f : Context → γ} {ps : List Processor} {t : Transit}
    (h : ∀ p ∈ ps, p.Preserves t.extensions f) :
    LeavesAt (Transit.view f) (runAll ps) t := by
  induction ps generalizing t with
  | nil => exact leaves_pure () t
  | cons p ps ih =>
    refine leavesAt_bind (leavesAt_run (h p List.mem_cons_self)) fun _ t' ht' => ih fun q hq => ?_
    rw [extensions_run ht']
    exact h q (List.mem_cons_of_mem p hq)

theorem leaves_runAll_dictionaries (ds : List Dictionary) :
    Leaves Transit.surroundings (runAll (ds.map .dictionary)) := by
  induction ds with
  | nil => exact leaves_pure ()
  | cons d ds ih => exact leaves_bind d.leaves_translate fun _ => ih

theorem runAll_append (ps qs : List Processor) :
    runAll (ps ++ qs) = (do runAll ps; runAll qs) := by
  induction ps with
  | nil => rfl
  | cons p ps ih =>
    rw [List.cons_append, runAll, runAll, ih, bind_assoc]

/-- Dictionaries leave the chain as it is, and what other processors make of it comes too late, so
that all that is run is in the chain that the message sets out with. -/
theorem outcome_passes (towards : Direction) (attached : Option Dictionary) (t : Transit) :
    outcome (passes towards attached) t
      = outcome (runAll ((dictionariesFor t.context.chain towards attached).map .dictionary
          ++ othersFor t.context.chain towards)) t := by
  rw [passes, outcome_bind_of_ok (Step.outcome_context t), applyDictionaries, runAll_append]
  rcases h : outcome (runAll ((dictionariesFor t.context.chain towards attached).map .dictionary)) t
    with ⟨e | ⟨⟩, t'⟩
  · rw [outcome_bind_of_error h, outcome_bind_of_error h]
  · have hcontext : t'.context = t.context :=
      congrArg Prod.fst ((leaves_runAll_dictionaries _ t).view_eq h)
    rw [outcome_bind_of_ok h, outcome_bind_of_ok h, outcome_bind_of_ok (Step.outcome_context t'),
      hcontext]
    rfl

/-- What is seen of the background is the same after a message has passed a chain of processors that
do not change it. -/
theorem leavesAt_passes {f : Context → γ} {t : Transit}
    (h : ∀ p ∈ t.context.chain, p.Preserves t.extensions f) (towards : Direction)
    (attached : Option Dictionary) :
    LeavesAt (Transit.view f) (passes towards attached) t := by
  rw [LeavesAt, outcome_passes]
  refine leavesAt_runAll fun p hp => ?_
  rcases List.mem_append.1 hp with hp | hp
  · obtain ⟨d, -, rfl⟩ := List.mem_map.1 hp
    exact trivial
  · exact h p (List.mem_filter.1 hp).1

theorem extensions_passes {towards : Direction} {attached : Option Dictionary} {t t' : Transit}
    {r : Except Error Unit} (h : outcome (passes towards attached) t = (r, t')) :
    t'.extensions = t.extensions :=
  congrArg Prod.snd
    ((leavesAt_passes (fun p _ => p.preserves_unit t.extensions) towards attached).view_eq h)

end Processor
end Rehearsal
