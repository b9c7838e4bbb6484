import Rehearsal.Transit
import Rehearsal.Proofs.Message.Ordinary

/-!
# Steps that keep the setup

The setup of a context is its libraries, its chain and what its names refer to. Main statement:
where all processors are built in, a message goes its way with ordinary errors only, and the setup
stays (`Processor.keeps_runAll`, `Processor.keeps_passes`).
-/

namespace Rehearsal

/-- The scopes have the same functions and matchers. -/
def Scope.SameLibraries (s₀ s : Scope) : Prop :=
  s.functions = s₀.functions ∧ s.matchers = s₀.matchers

/-- Ordinary are the libraries, and not the variables. -/
theorem Scope.SameLibraries.isOrdinary {s₀ s : Scope} (h : s₀.SameLibraries s)
    (ho : s₀.IsOrdinary) : s.IsOrdinary := by
  obtain ⟨hf, hm⟩ := h
  exact ⟨hf ▸ ho.functions, hm ▸ ho.matchers⟩

/-- The processor is a dictionary with mappings, or copies parts of messages into variables. -/
def Processor.IsBuiltIn : Processor → Prop
  | .dictionary d => d.IsBuiltIn
  | .extractHeaders _ | .extractJson _ => True
  | .simple _ _ | .custom _ _ => False

/-- The contexts have the same libraries and the same chain, and names refer to the same things. -/
structure Context.SameSetup (c₀ c : Context) : Prop where
  libraries : c₀.toScope.SameLibraries c.toScope
  chain : c.chain = c₀.chain
  bindings : c.bindings = c₀.bindings

/-- The context has ordinary libraries, and a chain of built-in processors. -/
structure Context.IsOrdinary (c : Context) : Prop where
  scope : c.toScope.IsOrdinary
  chain : ∀ p ∈ c.chain, p.IsBuiltIn

theorem Context.SameSetup.refl (c : Context) : c.SameSetup c := ⟨⟨rfl, rfl⟩, rfl, rfl⟩

section
variable {c₀ : Context}

/-- The step leaves the setup, and has ordinary errors only. -/
def Step.Keeps {α : Type} (c₀ : Context) (Q : α → Prop) (step : Step α) : Prop :=
  Rehearsal.Keeps (fun t : Transit => c₀.SameSetup t.context) Error.IsOrdinary Q step

namespace Step

theorem keeps_message : Keeps c₀ (fun _ => True) Step.message :=
  keeps_bind keeps_get fun _ _ => keeps_pure trivial

theorem keeps_context : Keeps c₀ c₀.SameSetup Step.context :=
  keeps_bind keeps_get fun _ h => keeps_pure h

theorem keeps_scope : Keeps c₀ c₀.toScope.SameLibraries Step.scope :=
  keeps_bind keeps_get fun _ h => keeps_pure h.libraries

theorem keeps_replace (m : Message) : Keeps c₀ (fun _ => True) (Step.replace m) :=
  keeps_modify fun _ h => h

/-- A new variable leaves the setup. -/
theorem keeps_bindVariable (name : String) (value : Json) :
    Keeps c₀ (fun _ => True) (Step.bindVariable name value) :=
  keeps_bind keeps_scope fun _ hs => keeps_modify fun _ h => ⟨hs, h.chain, h.bindings⟩

theorem keeps_draw {α : Type} {d : Draw α} (h : d.IsOrdinary) :
    Keeps c₀ (fun _ => True) (Step.draw d) := by
  apply keeps_of_draw (d := fun _ => d)
  · exact fun t a fresh => outcome_draw_of_ok
  · exact fun t e => outcome_draw_of_error
  · exact fun t fresh ht => ht
  · exact fun t _ => h

end Step

/-- A dictionary with mappings has ordinary errors only, and leaves the context. -/
theorem Dictionary.keeps_translate (ho : c₀.IsOrdinary) {d : Dictionary} (hd : d.IsBuiltIn) :
    Step.Keeps c₀ (fun _ => True) d.translate := by
  rw [translate_of_isBuiltIn hd]
  exact keeps_bind Step.keeps_message fun m _ =>
    keeps_bind Step.keeps_scope fun _ hs =>
      keeps_bind (Step.keeps_draw (isOrdinary_translatePayload (hs.isOrdinary ho.scope) d m))
        fun _ _ => Step.keeps_replace _

namespace Processor

/-- Copying headers into variables fails where a header is missing. -/
theorem keeps_runHeaders (mapping : List (String × String)) :
    Step.Keeps c₀ (fun _ => True) (runHeaders mapping) := by
  induction mapping with
  | nil => exact keeps_pure trivial
  | cons entry rest ih =>
    refine keeps_bind Step.keeps_message fun m _ => ?_
    split
    · exact keeps_bind (Step.keeps_bindVariable _ _) fun _ _ => ih
    · exact keeps_throw trivial

/-- Copying parts of a document into variables fails where a path leads nowhere. -/
theorem keeps_runPaths (document : Json) (mapping : List (String × String)) :
    Step.Keeps c₀ (fun _ => True) (runPaths document mapping) := by
  induction mapping with
  | nil => exact keeps_pure trivial
  | cons entry rest ih =>
    rw [runPaths]
    split
    · exact keeps_bind (Step.keeps_bindVariable _ _) fun _ _ => ih
    · exact keeps_throw trivial

theorem keeps_run (ho : c₀.IsOrdinary) {p : Processor} (h : p.IsBuiltIn) :
    Step.Keeps c₀ (fun _ => True) p.run := by
  cases p with
  | dictionary d => exact Dictionary.keeps_translate ho h
  | extractHeaders mapping => exact keeps_runHeaders _
  | extractJson mapping =>
    rw [run]
    split
    · exact keeps_pure trivial
    · refine keeps_bind Step.keeps_message fun m _ => ?_
      split
      · exact keeps_runPaths _ _
      · exact keeps_throw trivial
  | simple direction run => exact absurd h id
  | custom direction key => exact absurd h id

/-- Built-in processors leave the setup, and have ordinary errors only. -/
theorem keeps_runAll (ho : c₀.IsOrdinary) {ps : List Processor} (h : ∀ p ∈ ps, p.IsBuiltIn) :
    Step.Keeps c₀ (fun _ => True) (runAll ps) := by
  induction ps with
  | nil => exact keeps_pure trivial
  | cons p ps ih =>
    exact keeps_bind (keeps_run ho (h p (by simp))) fun _ _ => ih fun q hq => h q (by simp [hq])

theorem keeps_applyDictionaries (ho : c₀.IsOrdinary) {chain : List Processor}
    (h : ∀ p ∈ chain, p.IsBuiltIn) (towards : Direction) {attached : Option Dictionary}
    (ha : ∀ d ∈ attached, d.IsBuiltIn) :
    Step.Keeps c₀ (fun _ => True) (applyDictionaries chain towards attached) := by
  apply keeps_runAll ho
  intro p hp
  obtain ⟨d, hd, rfl⟩ := List.mem_map.1 hp
  -- the dictionary is attached to the message, or it stands in the chain
  rcases List.mem_append.1 hd with hd | hd
  · exact ha d (Option.filter_eq_some_iff.1 (Option.mem_toList.1 hd)).1
  · obtain ⟨p, hp, hpd⟩ := List.mem_filterMap.1 (List.mem_filter.1 hd).1
    cases p with
    | dictionary d' =>
      cases hpd
      exact h _ hp
    | _ => cases hpd

theorem keeps_applyProcessors (ho : c₀.IsOrdinary) {chain : List Processor}
    (h : ∀ p ∈ chain, p.IsBuiltIn) (towards : Direction) :
    Step.Keeps c₀ (fun _ => True) (applyProcessors chain towards) :=
  keeps_runAll ho fun p hp => h p (List.mem_filter.1 hp).1

/-- The chain is read anew for each of the passes; it is the chain of the setup. -/
theorem keeps_passes (ho : c₀.IsOrdinary) (towards : Direction) {attached : Option Dictionary}
    (ha : ∀ d ∈ attached, d.IsBuiltIn) :
    Step.Keeps c₀ (fun _ => True) (passes towards attached) := by
  refine keeps_bind Step.keeps_context fun c hc => ?_
  rw [hc.chain]
  refine keeps_bind (keeps_applyDictionaries ho ho.chain towards ha) fun _ _ => ?_
  refine keeps_bind Step.keeps_context fun c hc => ?_
  rw [hc.chain]
  exact keeps_applyProcessors ho ho.chain towards

end Processor
end
end Rehearsal
