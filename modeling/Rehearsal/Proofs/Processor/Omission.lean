import Rehearsal.Proofs.Processor.Effects

/-!
# Leaving out entries of the chain

Entries of the chain that do not go a message's way are not run for it, and what is built in does
not look at them. What is not built in may look at the whole chain, and it respects that entries are
left out if that makes no difference to it but for these entries. Main statement: a message passes a
chain with such entries left out as it passes the whole chain, if all that has a part in it respects
this (`Processor.respectsAt_passes`).
-/

namespace Rehearsal

variable {α : Type} {keep : Processor → Bool}

/-- The context with some entries of the chain left out. -/
def Context.keeping (keep : Processor → Bool) (c : Context) : Context :=
  { c with chain := c.chain.filter keep }

/-- What a processor of one's own gets, with some entries of the chain left out. -/
def Passage.keeping (keep : Processor → Bool) (p : Passage) : Passage :=
  { p with context := p.context.keeping keep }

/-- A message on its way, with some entries of the chain left out. -/
def Transit.keeping (keep : Processor → Bool) (t : Transit) : Transit :=
  { t with context := t.context.keeping keep }

/-- A function of the context does not look at the entries that are left out. -/
def LooksPast (keep : Processor → Bool) (f : Context → α) : Prop := ∀ c, f (c.keeping keep) = f c

/-- It has one value in two contexts that differ in these entries only. -/
theorem LooksPast.eq {f : Context → α} (h : LooksPast keep f) {c c' : Context}
    (hc : c.keeping keep = c'.keeping keep) : f c = f c' := by
  rw [← h c, hc, h]

/-- If the dictionary is not built in, it does not look at the entries that are left out. -/
def Dictionary.LooksPast (x : Extensions) (keep : Processor → Bool) (d : Dictionary) : Prop :=
  ∀ key, d.mappings = .custom key → Rehearsal.LooksPast keep (x.translate key)

/-- If the processor is not built in, it makes no difference to it that entries are left out. -/
def Processor.LooksPast (x : Extensions) (keep : Processor → Bool) : Processor → Prop
  | .dictionary d => d.LooksPast x keep
  | .custom _ key => Respects (Passage.keeping keep) (x.process key)
  | _ => True

/-! ## Steps -/

namespace Transit

variable {t t' : Transit}

theorem message_of_keeping (h : t.keeping keep = t'.keeping keep) : t.message = t'.message :=
  congrArg (fun t => t.message) h

theorem context_of_keeping (h : t.keeping keep = t'.keeping keep) :
    t.context.keeping keep = t'.context.keeping keep := congrArg (fun t => t.context) h

theorem scope_of_keeping (h : t.keeping keep = t'.keeping keep) : t.scope = t'.scope :=
  congrArg (fun t => t.scope) h

theorem fresh_of_keeping (h : t.keeping keep = t'.keeping keep) : t.fresh = t'.fresh :=
  congrArg (fun t => t.fresh) h

theorem extensions_of_keeping (h : t.keeping keep = t'.keeping keep) :
    t.extensions = t'.extensions := congrArg (fun t => t.extensions) h

theorem chain_of_keeping (h : t.keeping keep = t'.keeping keep) :
    t.context.chain.filter keep = t'.context.chain.filter keep :=
  congrArg (fun t => t.context.chain) h

end Transit

namespace Step

theorem respects_message : Respects (Transit.keeping keep) Step.message := fun _ _ h =>
  ⟨congrArg Except.ok (Transit.message_of_keeping h), h⟩

theorem respects_scope : Respects (Transit.keeping keep) Step.scope := fun _ _ h =>
  ⟨congrArg Except.ok (Transit.scope_of_keeping h), h⟩

theorem respects_replace (m : Message) : Respects (Transit.keeping keep) (Step.replace m) :=
  fun _ _ h => ⟨rfl, congrArg (fun t => { t with message := m }) h⟩

theorem respects_replaceScope (s : Scope) :
    Respects (Transit.keeping keep) (Step.replaceScope s) := fun _ _ h =>
  ⟨rfl, congrArg (fun t : Transit => { t with context := { t.context with toScope := s } }) h⟩

theorem respects_bindVariable (name : String) (value : Json) :
    Respects (Transit.keeping keep) (Step.bindVariable name value) :=
  respects_bind respects_scope fun _ => respects_replaceScope _

theorem respects_draw (d : Draw α) : Respects (Transit.keeping keep) (Step.draw d) := by
  intro t t' h
  have hfresh := Transit.fresh_of_keeping h
  cases hd : d.run t.fresh with
  | ok r =>
    rw [RespectsAt, outcome_draw_of_ok hd, outcome_draw_of_ok (hfresh ▸ hd)]
    exact ⟨rfl, congrArg (fun t => { t with fresh := r.2 }) h⟩
  | error e =>
    rw [RespectsAt, outcome_draw_of_error hd, outcome_draw_of_error (hfresh ▸ hd)]
    exact ⟨rfl, h⟩

end Step

variable {t t' : Transit}

/-- A dictionary translates alike whether these entries are left out or not. -/
theorem Dictionary.respectsAt_translate {d : Dictionary} (hd : d.LooksPast t.extensions keep)
    (h : t.keeping keep = t'.keeping keep) :
    RespectsAt (Transit.keeping keep) d.translate t t' := by
  unfold translate
  split
  · next key hkey =>
    have hsame : t.extensions.translate key t.context = t'.extensions.translate key t'.context := by
      rw [← Transit.extensions_of_keeping h]
      exact (hd key hkey).eq (Transit.context_of_keeping h)
    rw [RespectsAt, Step.outcome_translate, Step.outcome_translate, hsame,
      Transit.message_of_keeping h, Transit.fresh_of_keeping h]
    generalize outcome (t'.extensions.translate key t'.context) (t'.message, t'.fresh) = r
    exact ⟨rfl, congrArg (fun t : Transit => { t with message := r.2.1, fresh := r.2.2 }) h⟩
  · exact respects_bind Step.respects_message (fun m => respects_bind Step.respects_scope fun s =>
      respects_bind (Step.respects_draw _) fun payload => Step.respects_replace _) t t' h

namespace Processor

theorem respects_runHeaders (mapping : List (String × String)) :
    Respects (Transit.keeping keep) (runHeaders mapping) := by
  induction mapping with
  | nil => exact respects_pure ()
  | cons entry rest ih =>
    refine respects_bind Step.respects_message fun m => ?_
    split
    · exact respects_bind (Step.respects_bindVariable _ _) fun _ => ih
    · exact respects_throw _

theorem respects_runPaths (document : Json) (mapping : List (String × String)) :
    Respects (Transit.keeping keep) (runPaths document mapping) := by
  induction mapping with
  | nil => exact respects_pure ()
  | cons entry rest ih =>
    rw [runPaths]
    split
    · exact respects_bind (Step.respects_bindVariable _ _) fun _ => ih
    · exact respects_throw _

/-- A processor acts alike whether these entries are left out or not. -/
theorem respectsAt_run {p : Processor} (hp : p.LooksPast t.extensions keep)
    (h : t.keeping keep = t'.keeping keep) : RespectsAt (Transit.keeping keep) p.run t t' := by
  cases p with
  | dictionary d => exact Dictionary.respectsAt_translate hp h
  | extractHeaders mapping => exact respects_runHeaders _ t t' h
  | extractJson mapping =>
    rw [run]
    split
    · exact respects_pure () t t' h
    · refine respects_bind Step.respects_message (fun m => ?_) t t' h
      split
      · exact respects_runPaths _ _
      · exact respects_throw _
  | simple direction g =>
    refine respects_bind Step.respects_message
      (fun m => respects_bind Step.respects_scope fun s => ?_) t t' h
    split
    · exact respects_bind (Step.respects_replace _) fun _ => Step.respects_replaceScope _
    · exact respects_throw _
  | custom direction key =>
    have hpassage : t.toPassage.keeping keep = t'.toPassage.keeping keep :=
      congrArg Transit.toPassage h
    obtain ⟨hresult, hstate⟩ := hp t.toPassage t'.toPassage hpassage
    rw [RespectsAt, run, Step.outcome_process, Step.outcome_process,
      ← Transit.extensions_of_keeping h]
    exact ⟨hresult, congrArg (fun p : Passage => (⟨p, t.extensions⟩ : Transit)) hstate⟩

/-- Processors that run one after the other do so too, as none of them changes what they are made
of. -/
theorem respectsAt_runAll {ps : List Processor} (hps : ∀ p ∈ ps, p.LooksPast t.extensions keep)
    (h : t.keeping keep = t'.keeping keep) :
    RespectsAt (Transit.keeping keep) (runAll ps) t t' := by
  induction ps generalizing t t' with
  | nil => exact respects_pure () t t' h
  | cons p ps ih =>
    have hp := hps p List.mem_cons_self
    refine respectsAt_bind (respectsAt_run hp h) fun _ t₁ t₁' h₁ _ hkeeping => ?_
    refine ih (fun q hq => ?_) hkeeping
    rw [extensions_run h₁]
    exact hps q (List.mem_cons_of_mem p hq)

/-! ## Entries that go another way -/

section
variable {chain : List Processor} {towards : Direction}

/-- Entries that do not go the message's way may as well not be there. -/
theorem dictionariesFor_filter (h : ∀ p : Processor, p.direction.appliesTo towards → keep p)
    (attached : Option Dictionary) :
    dictionariesFor (chain.filter keep) towards attached
      = dictionariesFor chain towards attached := by
  have hchain : ((chain.filter keep).filterMap dictionary?).filter (fun d =>
        d.isGlobal && d.direction.appliesTo towards && !attached.any (·.id = d.id))
      = (chain.filterMap dictionary?).filter fun d =>
        d.isGlobal && d.direction.appliesTo towards && !attached.any (·.id = d.id) := by
    induction chain with
    | nil => rfl
    | cons p ps ih =>
      cases hp : p.dictionary? with
      | none =>
        by_cases hk : keep p = true <;> simpa [hp, hk] using ih
      | some d =>
        obtain rfl := dictionary?_eq_some.1 hp
        by_cases hk : keep (.dictionary d) = true
        · simp only [List.filter_cons_of_pos hk, List.filterMap_cons, hp]
          rw [List.filter_cons, List.filter_cons, ih]
        · -- a dictionary that is left out does not go the way, so that it is not called from the
          -- whole chain either
          have hd : d.direction.appliesTo towards = false := by
            refine Bool.eq_false_iff.2 fun hd => hk (h _ hd)
          simpa [List.filter_cons_of_neg hk, hp, hd] using ih
  rw [dictionariesFor, hchain, dictionariesFor]

/-- Neither do the processors that are no dictionaries change. -/
theorem othersFor_filter (h : ∀ p : Processor, p.direction.appliesTo towards → keep p) :
    othersFor (chain.filter keep) towards = othersFor chain towards := by
  rw [othersFor, List.filter_filter, othersFor]
  refine List.filter_congr fun p _ => ?_
  by_cases hp : p.direction.appliesTo towards = true
  · rw [h p hp, Bool.and_true]
  · simp [hp]

end

variable {towards : Direction} {attached : Option Dictionary}

/-- With entries left out that do not go its way, a message passes the chain as it passes all of it.
-/
theorem respectsAt_passes (hkeep : ∀ p : Processor, p.direction.appliesTo towards → keep p)
    (hchain : ∀ p ∈ t.context.chain, p.direction.appliesTo towards → p.LooksPast t.extensions keep)
    (hattached : ∀ d ∈ attached, d.direction.appliesTo towards → d.LooksPast t.extensions keep)
    (h : t.keeping keep = t'.keeping keep) :
    RespectsAt (Transit.keeping keep) (passes towards attached) t t' := by
  have hdictionaries : dictionariesFor t.context.chain towards attached
      = dictionariesFor t'.context.chain towards attached := by
    rw [← dictionariesFor_filter hkeep, Transit.chain_of_keeping h, dictionariesFor_filter hkeep]
  have hothers : othersFor t.context.chain towards = othersFor t'.context.chain towards := by
    rw [← othersFor_filter hkeep, Transit.chain_of_keeping h, othersFor_filter hkeep]
  -- the two chains give one list of processors to run
  rw [RespectsAt, outcome_passes, outcome_passes, ← hdictionaries, ← hothers]
  refine respectsAt_runAll (fun p hp => ?_) h
  rcases List.mem_append.1 hp with hp | hp
  · obtain ⟨d, hd, rfl⟩ := List.mem_map.1 hp
    -- the dictionary is attached to the message, or it stands in the chain
    rcases List.mem_append.1 hd with hd | hd
    · obtain ⟨hd, hcalled⟩ := Option.filter_eq_some_iff.1 (Option.mem_toList.1 hd)
      exact hattached d hd hcalled
    · obtain ⟨hd, hcalled⟩ := List.mem_filter.1 hd
      obtain ⟨p, hp, hpd⟩ := List.mem_filterMap.1 hd
      obtain rfl := dictionary?_eq_some.1 hpd
      simp only [Bool.and_eq_true] at hcalled
      exact hchain _ hp hcalled.1.2
  · obtain ⟨hp, hcalled⟩ := List.mem_filter.1 hp
    exact hchain p hp (Bool.and_eq_true_iff.1 hcalled).2

end Processor
end Rehearsal
