import Rehearsal.Dictionary.Basic
import Rehearsal.Proofs.Outcome
import Rehearsal.Proofs.Path.Substitution
import Rehearsal.Proofs.Scope.Purity

/-!
# Translating by JSON paths

A dictionary by JSON paths goes through the paths of the leaves of a document and changes the
document on the way. The outcome is that of one substitution: first the templates of all leaves that
a mapping matches are resolved, in document order, then all texts are put in at once
(`translateDocument_eq`). Main statement: this, with the first failure, the message that a failure
leaves alone, and the second translation that changes nothing (`translateDocument_simultaneous`).
-/

namespace Rehearsal.Dictionary

open Rehearsal.Path

/-- The texts for the positions that they stand behind. -/
def textsAt (ps : List (List Segment)) (texts : List String) : Table :=
  fun p => (ps.zip texts).lookup p

/-- The positions that some mapping matches, each with the template of the first one. -/
def matchedAmong (strategy : PathStrategy) (mappings : Assoc String) (ps : List (List Segment)) :
    List (List Segment × String) :=
  ps.filterMap fun p => (templateFor? strategy mappings (write p)).map (p, ·)

/-- The leaves of a document that some mapping matches, each with the template of the first one. -/
def matched (strategy : PathStrategy) (mappings : Assoc String) (document : Json) :
    List (List Segment × String) :=
  matchedAmong strategy mappings (properLeaves document)

/-! ## The loop -/

section
variable {strategy : PathStrategy} {mappings : Assoc String}

/-- Only positions that are there are matched. -/
theorem mem_of_mem_matchedAmong {ps : List (List Segment)} {p : List Segment}
    (h : p ∈ (matchedAmong strategy mappings ps).map (·.1)) : p ∈ ps := by
  obtain ⟨⟨q, t⟩, hq, rfl⟩ := List.mem_map.1 h
  obtain ⟨r, hr, he⟩ := List.mem_filterMap.1 hq
  obtain ⟨t', -, he⟩ := Option.map_eq_some_iff.1 he
  obtain ⟨rfl, -⟩ := Prod.mk.inj he
  exact hr

theorem lookup_zip_eq_none {ps : List (List Segment)} {texts : List String} {p : List Segment}
    (h : p ∉ ps) : (ps.zip texts).lookup p = none := by
  rw [List.lookup_eq_none_iff]
  rintro ⟨q, t⟩ hq
  have hq : q ∈ ps := (List.of_mem_zip hq).1
  have hne : p ≠ q := by
    rintro rfl
    exact h hq
  simpa using hne

/-- One more text in front of the others, for a position that stands nowhere else. -/
theorem textsAt_cons (f : Table) {ps : List (List Segment)} {p : List Segment} (hp : p ∉ ps)
    (t : String) (texts : List String) :
    (fun q => (textsAt (p :: ps) (t :: texts) q).or (f q))
      = fun q => (textsAt ps texts q).or (f.assign p t q) := by
  funext q
  by_cases hq : q = p
  · subst hq
    have hnone : textsAt ps texts q = none := lookup_zip_eq_none hp
    rw [hnone]
    simp [textsAt, Table.assign]
  · have hbeq : (q == p) = false := by simpa using hq
    rw [assign_of_ne hq]
    simp [textsAt, List.lookup_cons, hbeq]

variable (strategy mappings) in
/-- The loop over positions resolves the templates of those that are matched, one after the other,
and what it leaves is one substitution. -/
theorem translateLeaves_substitute (s : Scope) {v : Json} (hv : IsAddressable v) :
    ∀ (ps : List (List Segment)), ps.Nodup → (∀ p ∈ ps, p ∈ leaves v) → ∀ (f : Table),
      translateLeaves s strategy mappings (ps.map write) (substitute f v) = do
        let texts ← s.resolveAll ((matchedAmong strategy mappings ps).map (·.2))
        return substitute (fun p =>
          (textsAt ((matchedAmong strategy mappings ps).map (·.1)) texts p).or (f p)) v := by
  -- by induction on the positions that are left; `f` has the texts that were put in before them
  intro ps
  induction ps with
  | nil =>
    intro _ _ f
    simp [translateLeaves, matchedAmong, Scope.resolveAll, textsAt]
  | cons p ps ih =>
    intro hn hps f
    obtain ⟨hp, hn⟩ := List.nodup_cons.1 hn
    have ih := ih hn fun q hq => hps q (List.mem_cons_of_mem _ hq)
    rw [List.map_cons, translateLeaves]
    cases ht : templateFor? strategy mappings (write p) with
    | none =>
      have hm : matchedAmong strategy mappings (p :: ps) = matchedAmong strategy mappings ps := by
        rw [matchedAmong, List.filterMap_cons, ht]
        rfl
      rw [hm]
      exact ih f
    | some template =>
      have hm : matchedAmong strategy mappings (p :: ps)
          = (p, template) :: matchedAmong strategy mappings ps := by
        rw [matchedAmong, List.filterMap_cons, ht]
        rfl
      have hleaf : p ∈ leaves v := hps p (by simp)
      have hparse : parse (write p) = p := parse_write (isReadable_of_mem_leaves v hv p hleaf)
      -- the position is read back from its text, and setting its leaf extends `f`
      rw [hm, List.map_cons, Scope.resolveAll]
      simp only [hparse, set?_substitute v hv f p hleaf, Option.getD_some, ih, bind_assoc,
        pure_bind, List.map_cons]
      congr 1
      funext t
      congr 1
      funext texts
      have hfresh : p ∉ (matchedAmong strategy mappings ps).map (·.1) := fun h =>
        hp (mem_of_mem_matchedAmong h)
      rw [textsAt_cons f hfresh]

end

/-- The outcome is that of resolving the templates of all leaves that are matched, and one
substitution. -/
theorem translateDocument_eq (s : Scope) (strategy : PathStrategy) (mappings : Assoc String)
    {document : Json} (h : IsAddressable document) :
    translateDocument s strategy mappings document = do
      let texts ← s.resolveAll ((matched strategy mappings document).map (·.2))
      return substitute (textsAt ((matched strategy mappings document).map (·.1)) texts)
        document := by
  have hn : (properLeaves document).Nodup := (nodup_leaves document h).filter _
  have hl : ∀ p ∈ properLeaves document, p ∈ leaves document := fun p hp =>
    (List.mem_filter.1 hp).1
  have hloop := translateLeaves_substitute strategy mappings s h _ hn hl fun _ => none
  rw [substitute_none] at hloop
  have hpaths := leafPaths_eq_map_write fun p hp =>
    isLegible_of_isReadable (isReadable_of_mem_leaves document h p (hl p hp))
  rw [translateDocument, hpaths, hloop]
  simp [matched]

/-! ## Success and failure -/

/-- Templates are resolved up to the first one that fails. -/
theorem run_resolveAll_eq_error {s : Scope} {templates : List String} {fresh : Fresh} {e : Error} :
    (s.resolveAll templates).run fresh = .error e ↔ ∃ before template after texts fresh',
      templates = before ++ template :: after
        ∧ (s.resolveAll before).run fresh = .ok (texts, fresh')
        ∧ (s.resolve template).run fresh' = .error e := by
  simp only [Scope.resolveAll_eq_mapM]
  exact Draw.run_mapM_eq_error

/-! ## The message -/

/-- The dictionary looks at the document that a message carries. -/
structure Reads (mappings : Assoc String) (m : Message) (document : Json) : Prop where
  mapped : mappings.isEmpty = false
  nonempty : m.payload.isEmpty = false
  own : isForeign m = false
  document : m.payload.document = .ok document

/-- A payload with another document in it, as a document or as text like before. -/
def withDocument (p : Payload) (document : Json) : Payload :=
  match p with
  | .json _ => .json document
  | _ => .text document.render

/-- A payload that holds a document is translated by translating the document. -/
theorem translatePayload_of_reads {d : Dictionary} {strategy : PathStrategy}
    {mappings : Assoc String} (hd : d.mappings = .jsonPath strategy mappings) (s : Scope)
    {m : Message} {document : Json} (h : Reads mappings m document) :
    d.translatePayload s m = do
      let document' ← translateDocument s strategy mappings document
      return withDocument m.payload document' := by
  rw [translatePayload, hd]
  simp only [h.mapped, h.nonempty, h.own, h.document, readable, Bool.or_self, Bool.false_eq_true,
    if_false]
  cases m.payload <;> rfl

theorem isBuiltIn_of_simple {d : Dictionary} {mappings : List (MappingKey × String)}
    (hd : d.mappings = .simple mappings) : d.IsBuiltIn := by
  intro key h
  rw [hd] at h
  cases h

theorem isBuiltIn_of_jsonPath {d : Dictionary} {strategy : PathStrategy} {mappings : Assoc String}
    (hd : d.mappings = .jsonPath strategy mappings) : d.IsBuiltIn := by
  intro key h
  rw [hd] at h
  cases h

/-- A translation that succeeds puts in another payload. -/
theorem outcome_translate_of_ok {d : Dictionary} (hd : d.IsBuiltIn) {t : Transit}
    {payload : Payload} {fresh : Fresh}
    (h : (d.translatePayload t.scope t.message).run t.fresh = .ok (payload, fresh)) :
    outcome d.translate t = (.ok (), { t with message := { t.message with payload }, fresh }) := by
  rw [translate_of_isBuiltIn hd, outcome_bind_of_ok (Step.outcome_message t),
    outcome_bind_of_ok (Step.outcome_scope t), outcome_bind_of_ok (Step.outcome_draw_of_ok h)]
  rfl

/-- A translation that fails leaves everything as it is. -/
theorem outcome_translate_of_error {d : Dictionary} (hd : d.IsBuiltIn) {t : Transit} {e : Error}
    (h : (d.translatePayload t.scope t.message).run t.fresh = .error e) :
    outcome d.translate t = (.error e, t) := by
  rw [translate_of_isBuiltIn hd, outcome_bind_of_ok (Step.outcome_message t),
    outcome_bind_of_ok (Step.outcome_scope t), outcome_bind_of_error (Step.outcome_draw_of_error h)]

/-! ## Simultaneous replacement -/

section
variable (s : Scope) (strategy : PathStrategy) (mappings : Assoc String) {document : Json}

/-- A document is translated if every template that is matched stands for a text, and the texts take
their places. -/
theorem run_translateDocument_eq_ok (h : IsAddressable document) {fresh fresh' : Fresh}
    {document' : Json} :
    (translateDocument s strategy mappings document).run fresh = .ok (document', fresh')
      ↔ ∃ texts, (s.resolveAll ((matched strategy mappings document).map (·.2))).run fresh
          = .ok (texts, fresh')
        ∧ document' = substitute (textsAt ((matched strategy mappings document).map (·.1)) texts)
            document := by
  rw [translateDocument_eq s strategy mappings h, Draw.run_bind_eq_ok]
  constructor
  · rintro ⟨texts, fresh₂, ht, hr⟩
    cases hr
    exact ⟨texts, ht, rfl⟩
  · rintro ⟨texts, ht, rfl⟩
    exact ⟨texts, fresh', ht, rfl⟩

/-- The error is that of the first template that stands for none. -/
theorem run_translateDocument_eq_error (h : IsAddressable document) {fresh : Fresh} {e : Error} :
    (translateDocument s strategy mappings document).run fresh = .error e
      ↔ ∃ before p template after texts fresh',
        matched strategy mappings document = before ++ (p, template) :: after
          ∧ (s.resolveAll (before.map (·.2))).run fresh = .ok (texts, fresh')
          ∧ (s.resolve template).run fresh' = .error e := by
  rw [translateDocument_eq s strategy mappings h, Draw.run_bind_eq_error]
  constructor
  · rintro (h | ⟨texts, fresh', -, h⟩)
    · obtain ⟨before, template, after, texts, fresh', heq, hb, he⟩ := run_resolveAll_eq_error.1 h
      obtain ⟨before', rest, hfound, rfl, hrest⟩ := List.map_eq_append_iff.1 heq
      obtain ⟨⟨p, template'⟩, after', rfl, rfl, rfl⟩ := List.map_eq_cons_iff.1 hrest
      exact ⟨before', p, template', after', texts, fresh', hfound, hb, he⟩
    · cases h
  · rintro ⟨before, p, template, after, texts, fresh', hfound, hb, he⟩
    refine .inl (run_resolveAll_eq_error.2 ?_)
    exact ⟨before.map (·.2), template, after.map (·.2), texts, fresh', by simp [hfound], hb, he⟩

/-- Substituting changes nothing about which leaves are matched. -/
theorem matched_substitute (f : Table) :
    matched strategy mappings (substitute f document) = matched strategy mappings document := by
  rw [matched, matched, properLeaves, leaves_substitute, properLeaves]

/-- Translating the result again changes nothing, if the templates are pure. -/
theorem run_translateDocument_again (h : IsAddressable document)
    (hp : ∀ m ∈ matched strategy mappings document, s.IsPureTemplate m.2) {fresh fresh' : Fresh}
    {document' : Json}
    (hr : (translateDocument s strategy mappings document).run fresh = .ok (document', fresh'))
    (fresh'' : Fresh) :
    (translateDocument s strategy mappings document').run fresh'' = .ok (document', fresh'') := by
  obtain ⟨texts, ht, rfl⟩ := (run_translateDocument_eq_ok s strategy mappings h).1 hr
  have hpure : (s.resolveAll ((matched strategy mappings document).map (·.2))).IsPure := by
    apply Scope.isPure_resolveAll
    intro t ht
    obtain ⟨m, hm, rfl⟩ := List.mem_map.1 ht
    exact hp m hm
  -- the same leaves are matched again, and the same texts put in where they already are
  rw [run_translateDocument_eq_ok s strategy mappings (isAddressable_substitute _ _ h),
    matched_substitute]
  exact ⟨texts, (hpure.run_eq_ok ht).2 fresh'', (substitute_idem _ _).symm⟩

end

/-- Translating a document by paths replaces all leaves that a mapping matches at once, each with
the text of the template of the first mapping that matches it, and leaves all else as it is. It
succeeds if all these templates resolve; otherwise its error is that of the first leaf whose
template does not, and the message is left as it was. If the templates are pure, translating the
result again changes nothing. -/
theorem translateDocument_simultaneous {d : Dictionary} {strategy : PathStrategy}
    {mappings : Assoc String} (hd : d.mappings = .jsonPath strategy mappings) (s : Scope)
    {document : Json} (h : IsAddressable document) :
    (∀ fresh fresh' document',
      (translateDocument s strategy mappings document).run fresh = .ok (document', fresh')
        ↔ ∃ texts, (s.resolveAll ((matched strategy mappings document).map (·.2))).run fresh
            = .ok (texts, fresh')
          ∧ document'
            = substitute (textsAt ((matched strategy mappings document).map (·.1)) texts) document)
      ∧ (∀ fresh e, (translateDocument s strategy mappings document).run fresh = .error e
        ↔ ∃ before p template after texts fresh',
          matched strategy mappings document = before ++ (p, template) :: after
            ∧ (s.resolveAll (before.map (·.2))).run fresh = .ok (texts, fresh')
            ∧ (s.resolve template).run fresh' = .error e)
      ∧ (∀ t : Transit, t.scope = s → Reads mappings t.message document →
        (∀ document' fresh',
          (translateDocument s strategy mappings document).run t.fresh = .ok (document', fresh') →
            outcome d.translate t = (.ok (), { t with
              message := { t.message with payload := withDocument t.message.payload document' }
              fresh := fresh' }))
          ∧ ∀ e, (translateDocument s strategy mappings document).run t.fresh = .error e →
            outcome d.translate t = (.error e, t))
      ∧ ((∀ m ∈ matched strategy mappings document, s.IsPureTemplate m.2) →
        ∀ fresh fresh' document',
          (translateDocument s strategy mappings document).run fresh = .ok (document', fresh') →
            ∀ fresh'', (translateDocument s strategy mappings document').run fresh''
              = .ok (document', fresh'')) := by
  refine ⟨fun fresh fresh' document' => run_translateDocument_eq_ok s strategy mappings h,
    fun fresh e => run_translateDocument_eq_error s strategy mappings h, ?_, ?_⟩
  · rintro t rfl hread
    have hpayload := translatePayload_of_reads hd t.scope hread
    constructor
    · intro document' fresh' hr
      apply outcome_translate_of_ok (isBuiltIn_of_jsonPath hd)
      rw [hpayload, Draw.run_bind_of_ok hr, Draw.run_pure]
    · intro e hr
      apply outcome_translate_of_error (isBuiltIn_of_jsonPath hd)
      rw [hpayload, Draw.run_bind_of_error hr]
  · intro hp fresh fresh' document' hr fresh''
    exact run_translateDocument_again s strategy mappings h hp hr fresh''

/-- The first of two mappings matches paths that the second one matches as well. -/
def orderMappings : Assoc String := .ofList [("items[0].id", "1"), ("id", "2"), ("[0]", "none")]

/-- A document with leaves of all kinds: scalars and empty containers, in objects and in arrays. -/
def order (id first tag : Json) : Json :=
  .object [("id", id), ("items", .array [.object [("id", first)], .array [], .bool true]),
    ("tags", .array [tag])]

theorem isAddressable_order : IsAddressable (order (.text "x") .null (.object [])) := by
  have hid : IsReadableKey ['i', 'd'] := by constructor <;> simp <;> decide
  have hitems : IsReadableKey ['i', 't', 'e', 'm', 's'] := by constructor <;> simp <;> decide
  have htags : IsReadableKey ['t', 'a', 'g', 's'] := by constructor <;> simp <;> decide
  simp [order, IsAddressable, ItemsAddressable, FieldsAddressable, hid, hitems, htags]

/-- The positions that are matched, each with its template. -/
theorem matched_order : matched .endsWith orderMappings (order (.text "x") .null (.object []))
    = [([.field "id"], "2"), ([.field "items", .index 0, .field "id"], "1"),
      ([.field "tags", .index 0], "none")] := by
  decide +kernel

theorem translateDocument_simultaneous_order :
    IsAddressable (order (.text "x") .null (.object []))
      ∧ (translateDocument {} .endsWith orderMappings (order (.text "x") .null (.object []))).run {}
        = .ok (order (.text "2") (.text "1") (.text "none"), {})
      ∧ (translateDocument {} .endsWith orderMappings
          (order (.text "2") (.text "1") (.text "none"))).run {}
        = .ok (order (.text "2") (.text "1") (.text "none"), {}) := by
  let d : Dictionary := { id := 0, name := "order", mappings := .jsonPath .endsWith orderMappings }
  obtain ⟨hok, -, -, hagain⟩ :=
    translateDocument_simultaneous (d := d) rfl {} isAddressable_order
  have hplain : ∀ template ∈ ["2", "1", "none"],
      Text.contains Template.opening template.toList = false := by
    simp only [List.forall_mem_cons]
    exact ⟨by decide, by decide, by decide, by simp⟩
  have htexts : (Scope.resolveAll {} ["2", "1", "none"]).run {} = .ok (["2", "1", "none"], {}) := by
    rw [Scope.resolveAll_of_plain {} hplain]
    rfl
  have hfirst := (hok {} {} (order (.text "2") (.text "1") (.text "none"))).2
    ⟨["2", "1", "none"], by rw [matched_order]; exact htexts, by rw [matched_order]; rfl⟩
  refine ⟨isAddressable_order, hfirst, hagain ?_ _ _ _ hfirst _⟩
  intro m hm
  apply Scope.isPureTemplate_of_plain
  apply hplain
  rw [matched_order] at hm
  simpa using List.mem_map_of_mem hm

end Rehearsal.Dictionary
