import Rehearsal.Proofs.Dictionary.Translation
import Rehearsal.Proofs.Json.Normal
import Rehearsal.Proofs.Json.Reading

/-!
# Dictionaries that do not apply

A dictionary applies to a payload if one of its mappings does: a key stands in the text, or matches
the path of a leaf (`Applies`). One that does not still writes the payload anew, and what is written
anew need not be what was there: a simple dictionary writes a document and reads it again, and takes
the empty text for no payload; one by paths reads the document that a text or bytes hold, and writes
it as a text. Main statement: where no mapping applies, a translation that succeeds leaves all but
the payload, and the payload exactly if it is kept in this way (`translate_unapplied`).
-/

namespace Rehearsal

/-! ## Applying -/

/-- The key stands in a text: a text that is not empty as it is, a pattern with a match. -/
def MappingKey.OccursIn (key : MappingKey) (cs : List Char) : Prop :=
  match key with
  | .literal text => text.toList ≠ [] ∧ text.toList <:+: cs
  | .pattern prog => prog.isMatch cs = true

namespace Dictionary

/-- Some mapping applies to the payload: its key stands in the text, or it matches the path of a
leaf of the document. -/
def Applies (d : Dictionary) (p : Payload) : Prop :=
  match d.mappings with
  | .simple mappings => ∃ entry ∈ mappings, entry.1.OccursIn p.plain.toList
  | .jsonPath strategy mappings => ∃ document, p.document = .ok document
    ∧ ∃ path ∈ Path.leafPaths document, ∃ entry ∈ mappings.entries,
      strategy.accepts path entry.1 = true
  -- what is not built in may apply to anything
  | .custom _ => True

end Dictionary

/-- The payload comes back when it is taken for a text: a text does unless it is empty, a document
if it is read from its written form. -/
def Payload.IsReadBack : Payload → Prop
  | .text s => s ≠ ""
  | .json v => Json.parse v.render = .ok v
  | .empty | .binary _ => True

/-- The payload is written as the document in it is, or is a document itself, or nothing. -/
def Payload.IsRendered : Payload → Prop
  | .text s => s = "" ∨ (Json.parse s).map Json.render = .ok s
  | .binary bytes => bytes = []
  | .empty | .json _ => True

namespace Dictionary

/-- The dictionary keeps the payload of a message that it does not apply to. -/
def Keeps (d : Dictionary) (m : Message) : Prop :=
  match d.mappings with
  | .simple _ => m.payload.IsReadBack
  | .jsonPath _ mappings => mappings.isEmpty = true ∨ isForeign m = true ∨ m.payload.IsRendered
  | .custom _ => True

/-! ## Texts -/

theorem replaceAll_of_not_infix {needle cs : List Char} (h : ¬ (needle ≠ [] ∧ needle <:+: cs))
    (new : List Char) : Text.replaceAll needle new cs = cs := by
  rw [Text.replaceAll]
  split
  · rfl
  · next hne =>
    split
    · rfl
    · next a b hcut => exact absurd ⟨hne, a, b, (Text.cut?_eq_some hcut).symm⟩ h

theorem replaceKey_of_not_occursIn {key : MappingKey} {cs : List Char} (h : ¬ key.OccursIn cs)
    (new : List Char) : replaceKey key new cs = cs := by
  cases key with
  | literal text => exact replaceAll_of_not_infix h new
  | pattern prog =>
    exact Pattern.Program.replaceAll_of_isMatch_eq_false (Bool.eq_false_iff.2 h)

/-- All templates are resolved, but there is no place to put them. -/
theorem eq_of_run_translateText {s : Scope} {mappings : List (MappingKey × String)}
    {cs cs' : List Char} {fresh fresh' : Fresh} (h : ∀ entry ∈ mappings, ¬ entry.1.OccursIn cs)
    (hr : (translateText s mappings cs).run fresh = .ok (cs', fresh')) : cs' = cs := by
  induction mappings generalizing fresh with
  | nil =>
    rw [translateText, Draw.run_pure] at hr
    cases hr
    rfl
  | cons entry mappings ih =>
    obtain ⟨hentry, hrest⟩ := List.forall_mem_cons.1 h
    rw [translateText] at hr
    obtain ⟨new, fresh₁, -, hr⟩ := Draw.run_bind_eq_ok.1 hr
    rw [replaceKey_of_not_occursIn hentry] at hr
    exact ih hrest hr

/-! ## Documents -/

theorem templateFor?_eq_none {strategy : PathStrategy} {mappings : Assoc String} {path : String} :
    templateFor? strategy mappings path = none
      ↔ ∀ entry ∈ mappings.entries, strategy.accepts path entry.1 = false := by
  simp [templateFor?]

theorem translateLeaves_of_unmatched {s : Scope} {strategy : PathStrategy}
    {mappings : Assoc String} {paths : List String} (document : Json)
    (h : ∀ path ∈ paths, templateFor? strategy mappings path = none) :
    translateLeaves s strategy mappings paths document = pure document := by
  induction paths with
  | nil => rw [translateLeaves]
  | cons path paths ih =>
    obtain ⟨hpath, hrest⟩ := List.forall_mem_cons.1 h
    rw [translateLeaves, hpath]
    exact ih hrest

/-! ## Payloads -/

theorem readable_eq_ok {d : Dictionary} {fault : Json.Fault → DictionaryFault}
    {document : Except Json.Fault Json} {v : Json} :
    d.readable fault document = .ok v ↔ document = .ok v := by
  cases document <;> simp [readable]

section
variable {d : Dictionary} {s : Scope} {m : Message} {payload : Payload} {fresh fresh' : Fresh}

theorem ofText_eq_text {text : String} : Payload.ofText text = .text text ↔ text ≠ "" := by
  unfold Payload.ofText
  split <;> simp_all

theorem not_occursIn_of_not_applies {mappings : List (MappingKey × String)} {p : Payload}
    (hd : d.mappings = .simple mappings) (h : ¬ d.Applies p) :
    ∀ entry ∈ mappings, ¬ entry.1.OccursIn p.plain.toList := by
  intro entry hentry hocc
  rw [Applies, hd] at h
  exact h ⟨entry, hentry, hocc⟩

/-- A simple dictionary reads a document from its written form. -/
theorem exists_parse_of_not_applies {mappings : List (MappingKey × String)} {v : Json}
    (hd : d.mappings = .simple mappings) (h : ¬ d.Applies m.payload) (hp : m.payload = .json v)
    (hr : (d.translatePayload s m).run fresh = .ok (payload, fresh')) :
    ∃ v', Json.parse v.render = .ok v' ∧ payload = .json v' := by
  have habsent := not_occursIn_of_not_applies hd h
  rw [hp, Payload.plain, Json.render, String.toList_ofList] at habsent
  rw [translatePayload, hd, hp] at hr
  obtain ⟨cs, fresh₁, hcs, hr⟩ := Draw.run_bind_eq_ok.1 hr
  obtain rfl := eq_of_run_translateText habsent hcs
  obtain ⟨v', fresh₂, hv, hr⟩ := Draw.run_bind_eq_ok.1 hr
  cases hr
  exact ⟨v', readable_eq_ok.1 (Draw.run_liftM_eq_ok.1 hv).1, rfl⟩

theorem eq_iff_isReadBack {mappings : List (MappingKey × String)}
    (hd : d.mappings = .simple mappings) (h : ¬ d.Applies m.payload)
    (hr : (d.translatePayload s m).run fresh = .ok (payload, fresh')) :
    payload = m.payload ↔ m.payload.IsReadBack := by
  cases hp : m.payload with
  | text text =>
    have habsent := not_occursIn_of_not_applies hd h
    rw [hp] at habsent
    rw [translatePayload, hd, hp] at hr
    obtain ⟨cs, fresh₁, hcs, hr⟩ := Draw.run_bind_eq_ok.1 hr
    obtain rfl := eq_of_run_translateText habsent hcs
    rw [Draw.run_pure, String.ofList_toList] at hr
    cases hr
    exact ofText_eq_text
  | json v =>
    obtain ⟨v', hparse, rfl⟩ := exists_parse_of_not_applies hd h hp hr
    simp [Payload.IsReadBack, hparse]
  | empty | binary bytes =>
    rw [translatePayload, hd, hp] at hr
    cases hr
    simp [Payload.IsReadBack]

/-- A dictionary by paths writes a document that it looks at as it is. -/
theorem translatePayload_of_not_applies {strategy : PathStrategy} {mappings : Assoc String}
    {document : Json} (hd : d.mappings = .jsonPath strategy mappings)
    (h : ¬ d.Applies m.payload) (hread : Reads mappings m document) :
    d.translatePayload s m = pure (withDocument m.payload document) := by
  have hunmatched : ∀ path ∈ Path.leafPaths document,
      templateFor? strategy mappings path = none := by
    intro path hpath
    rw [templateFor?_eq_none]
    intro entry hentry
    rw [Bool.eq_false_iff]
    intro haccepts
    rw [Applies, hd] at h
    exact h ⟨document, hread.document, path, hpath, entry, hentry, haccepts⟩
  rw [translatePayload_of_reads hd s hread, translateDocument,
    translateLeaves_of_unmatched document hunmatched, pure_bind]

theorem withDocument_eq_iff_isRendered {p : Payload} {document : Json}
    (h : p.document = .ok document) (hp : p.isEmpty = false) :
    withDocument p document = p ↔ p.IsRendered := by
  cases p with
  | json v =>
    cases h
    simp [withDocument, Payload.IsRendered]
  | text text =>
    have hparse : Json.parse text = .ok document := h
    have hne : text ≠ "" := by simpa [Payload.isEmpty] using hp
    simp [withDocument, Payload.IsRendered, hne, hparse, Except.map]
  | binary bytes => simpa [withDocument, Payload.IsRendered, Payload.isEmpty] using hp
  | empty => cases hp

theorem isRendered_of_isEmpty {p : Payload} (h : p.isEmpty = true) : p.IsRendered := by
  cases p with
  | json v => trivial
  | text text => exact .inl (by simpa [Payload.isEmpty] using h)
  | binary bytes => simpa [Payload.IsRendered, Payload.isEmpty] using h
  | empty => trivial

theorem eq_iff_isRendered {strategy : PathStrategy} {mappings : Assoc String}
    (hd : d.mappings = .jsonPath strategy mappings) (h : ¬ d.Applies m.payload)
    (hr : (d.translatePayload s m).run fresh = .ok (payload, fresh')) :
    payload = m.payload
      ↔ mappings.isEmpty = true ∨ isForeign m = true ∨ m.payload.IsRendered := by
  by_cases hskip : (m.payload.isEmpty || mappings.isEmpty || isForeign m) = true
  · rw [translatePayload, hd] at hr
    dsimp only at hr
    rw [if_pos hskip, Draw.run_pure] at hr
    cases hr
    simp only [Bool.or_eq_true] at hskip
    refine iff_of_true rfl ?_
    rcases hskip with (hempty | hmappings) | hforeign
    · exact .inr (.inr (isRendered_of_isEmpty hempty))
    · exact .inl hmappings
    · exact .inr (.inl hforeign)
  · have hrun := hr
    rw [translatePayload, hd] at hr
    dsimp only at hr
    rw [if_neg hskip] at hr
    simp only [Bool.or_eq_true, not_or, Bool.not_eq_true] at hskip
    obtain ⟨⟨hnonempty, hmappings⟩, hforeign⟩ := hskip
    obtain ⟨document, fresh₁, hdocument, -⟩ := Draw.run_bind_eq_ok.1 hr
    have hdocument := readable_eq_ok.1 (Draw.run_liftM_eq_ok.1 hdocument).1
    rw [translatePayload_of_not_applies hd h ⟨hmappings, hnonempty, hforeign, hdocument⟩] at hrun
    cases hrun
    simpa [hmappings, hforeign] using withDocument_eq_iff_isRendered hdocument hnonempty

end

/-! ## Messages -/

/-- A document in normal form whose doubles are read back is read back itself. -/
theorem eq_of_parse_render {v v' : Json} (hnormal : v.IsNormal)
    (hdoubles : ∀ d finite, .double d finite ∈ v.numbers →
      (Json.Number.double d finite).IsReadBack)
    (h : Json.parse v.render = .ok v') : v' = v := by
  obtain ⟨source, hsource, hmeans⟩ :=
    Json.Source.exists_ofText_render (Json.forall_isReadBack hdoubles)
  obtain ⟨source', u, hsource', hu, rfl⟩ := Json.parse_eq_ok.1 h
  cases hsource.symm.trans hsource'
  rw [hmeans.eq_of_value hu, Json.normalize_eq_self hnormal]

/-! ## A mapping for one letter -/

/-- A message with this payload on its way. -/
def carrying (payload : Payload) : Transit where
  message := { id := .ofNat 0, timestamp := ⟨0, 0⟩, payload }
  context := {}
  fresh := {}

/-- A mapping for the text `b`. -/
def byText : Dictionary :=
  { id := 0, name := "texts", mappings := .simple [(.literal "b", "x")] }

/-- A mapping for the path `b`. -/
def byPath : Dictionary :=
  { id := 1, name := "paths", mappings := .jsonPath .exactly (.ofList [("b", "x")]) }

theorem not_occursIn_byText {cs : List Char} (h : 'b' ∉ cs) :
    ¬ (MappingKey.literal "b").OccursIn cs := by
  rintro ⟨-, a, c, hcs⟩
  refine h ?_
  rw [← hcs]
  simp

theorem not_applies_byText {p : Payload} (h : 'b' ∉ p.plain.toList) : ¬ byText.Applies p := by
  rintro ⟨entry, hentry, hocc⟩
  obtain rfl := List.mem_singleton.1 hentry
  exact not_occursIn_byText h hocc

theorem not_applies_byText_json {v : Json} (hb : 'b' ∉ v.write) : ¬ byText.Applies (.json v) := by
  refine not_applies_byText ?_
  rwa [Payload.plain, Json.render, String.toList_ofList]

theorem translateText_byText {cs : List Char} (h : 'b' ∉ cs) :
    translateText {} [(.literal "b", "x")] cs = pure cs := by
  have hplain : Text.contains Template.opening "x".toList = false := by decide
  rw [translateText, Scope.resolveChars_of_plain {} hplain, pure_bind,
    replaceKey_of_not_occursIn (not_occursIn_byText h), translateText]

theorem outcome_byText {v v' : Json} (hb : 'b' ∉ v.write) (h : Json.parse v.render = .ok v') :
    outcome byText.translate (carrying (.json v)) = (.ok (), carrying (.json v')) := by
  have hread : byText.readable .resultJson (Json.parse (String.ofList v.write)) = .ok v' :=
    readable_eq_ok.2 h
  have hrun : (byText.translatePayload {} (carrying (.json v)).message).run {}
      = .ok (.json v', {}) := by
    simp only [translatePayload, byText, carrying, translateText_byText hb, pure_bind]
    exact Draw.run_bind_of_ok (Draw.run_liftM_eq_ok.2 ⟨hread, rfl⟩)
  exact outcome_translate_of_ok (isBuiltIn_of_simple rfl) hrun

section
variable {d : Dictionary} {t t' : Transit}

theorem isBuiltIn_of_not_applies {p : Payload} (h : ¬ d.Applies p) : d.IsBuiltIn := by
  intro key hd
  rw [Applies, hd] at h
  exact h trivial

/-- A translation that succeeds has drawn the payload that it puts in. -/
theorem exists_payload_of_translate (hd : d.IsBuiltIn) (h : outcome d.translate t = (.ok (), t')) :
    ∃ payload fresh, (d.translatePayload t.scope t.message).run t.fresh = .ok (payload, fresh)
      ∧ t' = { t with message := { t.message with payload }, fresh } := by
  cases hr : (d.translatePayload t.scope t.message).run t.fresh with
  | error e =>
    rw [outcome_translate_of_error hd hr] at h
    cases h
  | ok r =>
    rw [outcome_translate_of_ok hd hr] at h
    cases h
    exact ⟨r.1, r.2, rfl, rfl⟩

/-- Where no mapping applies, a translation that succeeds changes nothing but the payload, and
leaves the message as it was exactly if the dictionary keeps its payload: a simple one any payload
but the empty text and a document that is not read from its written form, which one in normal form
is if its doubles are; one by paths any payload but a text or bytes, unless it has no mappings, the
message is declared as something else, or the text is written as the document in it is. -/
theorem translate_unapplied (h : ¬ d.Applies t.message.payload)
    (ht : outcome d.translate t = (.ok (), t')) :
    t'.message = { t.message with payload := t'.message.payload } ∧ t'.scope = t.scope
      ∧ (t'.message = t.message ↔ d.Keeps t.message)
      ∧ ∀ mappings v, d.mappings = .simple mappings → t.message.payload = .json v → v.IsNormal →
        (∀ x finite, .double x finite ∈ v.numbers → (Json.Number.double x finite).IsReadBack) →
        t'.message = t.message := by
  obtain ⟨payload, fresh, hr, rfl⟩ :=
    exists_payload_of_translate (isBuiltIn_of_not_applies h) ht
  have hmessage : { t.message with payload } = t.message ↔ payload = t.message.payload :=
    ⟨fun he => congrArg Message.payload he, fun he => by rw [he]⟩
  refine ⟨rfl, rfl, hmessage.trans ?_, fun mappings v hd hp hnormal hdoubles => hmessage.2 ?_⟩
  · cases hd : d.mappings with
    | simple mappings =>
      rw [Keeps, hd]
      exact eq_iff_isReadBack hd h hr
    | jsonPath strategy mappings =>
      rw [Keeps, hd]
      exact eq_iff_isRendered hd h hr
    | custom key => exact absurd hd (isBuiltIn_of_not_applies h key)
  · obtain ⟨v', hparse, rfl⟩ := exists_parse_of_not_applies hd h hp hr
    rw [hp, eq_of_parse_render hnormal hdoubles hparse]

end

/-- The double that is written as `0.5`. -/
def half : Json.Number := .double (.finite false (1 <<< 52) (-53) (by decide)) rfl

theorem isReadBack_half : half.IsReadBack := by decide +kernel

theorem translate_unapplied_half : ¬ byText.Applies (.json (.number half))
    ∧ ∃ t', outcome byText.translate (carrying (.json (.number half))) = (.ok (), t')
      ∧ t'.message = (carrying (.json (.number half))).message := by
  have hunapplied : ¬ byText.Applies (.json (.number half)) :=
    not_applies_byText_json (by decide +kernel)
  have ht := outcome_byText (by decide +kernel) isReadBack_half
  obtain ⟨-, -, -, hkeeps⟩ :=
    translate_unapplied (t := carrying (.json (.number half))) hunapplied ht
  refine ⟨hunapplied, _, ht, hkeeps _ _ rfl rfl trivial fun x finite hx => ?_⟩
  rw [Json.numbers, List.mem_singleton] at hx
  exact hx ▸ isReadBack_half

/-! ## Payloads that are not kept -/

/-- The dictionary puts one payload in the place of another one that it does not apply to. -/
structure Rewrites (d : Dictionary) (p q : Payload) : Prop where
  unapplied : ¬ d.Applies p
  translate : outcome d.translate (carrying p) = (.ok (), carrying q)
  changed : q ≠ p

theorem rewrites_byText {v v' : Json} (hb : 'b' ∉ v.write) (h : Json.parse v.render = .ok v')
    (hchanged : v' ≠ v) : byText.Rewrites (.json v) (.json v') where
  unapplied := not_applies_byText_json hb
  translate := outcome_byText hb h
  changed := by simpa using hchanged

theorem rewrites_byPath {p : Payload} {document : Json} (hp : p.document = .ok document)
    (hne : p.isEmpty = false) (hpaths : "b" ∉ Path.leafPaths document)
    (hchanged : withDocument p document ≠ p) : byPath.Rewrites p (withDocument p document) := by
  have hunapplied : ¬ byPath.Applies p := by
    rintro ⟨document', hdocument', path, hpath, entry, hentry, haccepts⟩
    cases hp.symm.trans hdocument'
    obtain rfl := List.mem_singleton.1 hentry
    have hpath' : path = "b" := of_decide_eq_true haccepts
    exact hpaths (hpath' ▸ hpath)
  have hread : Reads (.ofList [("b", "x")]) (carrying p).message document :=
    ⟨rfl, hne, rfl, hp⟩
  have hrun : (byPath.translatePayload {} (carrying p).message).run {}
      = .ok (withDocument p document, {}) := by
    rw [translatePayload_of_not_applies rfl hunapplied hread]
    rfl
  exact ⟨hunapplied, outcome_translate_of_ok (isBuiltIn_of_jsonPath rfl) hrun, hchanged⟩

/-- The double that is written as `1e-24`. -/
def tiny : Json.Number := .double (.finite false 0x1357C299A88EA7 (-132) (by decide)) rfl

/-- The next double, which that text is read as. -/
def nextToTiny : Json.Number := .double (.finite false 0x1357C299A88EA8 (-132) (by decide)) rfl

theorem parse_render_tiny : Json.parse (Json.number tiny).render = .ok (.number nextToTiny) :=
  Json.Number.isRead_iff.1 (by decide +kernel)

theorem nextToTiny_ne_tiny : nextToTiny ≠ tiny := by decide +kernel

/-- A text with blanks between its tokens. -/
def spaced : String := "\x7b \"a\": 1 \x7d"

theorem exists_parse_spaced : ∃ v, Json.parse spaced = .ok v ∧ Path.leafPaths v = ["a"]
    ∧ v.render = "\x7b\"a\":1\x7d" := by
  have hcheck : (Json.parse spaced).toOption.any (fun v =>
      Path.leafPaths v = ["a"] ∧ v.render = "\x7b\"a\":1\x7d") = true := by
    decide +kernel
  obtain ⟨v, hv, h⟩ := (Option.any_eq_true _ _).1 hcheck
  refine ⟨v, ?_, of_decide_eq_true h⟩
  cases hparse : Json.parse spaced with
  | error e => rw [hparse] at hv; cases hv
  | ok w => rw [hparse] at hv; cases hv; rfl

/-- A text is written without its blanks, bytes become a text, the empty text becomes no payload,
and a double becomes another one, though no mapping applies. -/
theorem translate_unapplied_rewrites :
    byPath.Rewrites (.text spaced) (.text "\x7b\"a\":1\x7d")
      ∧ byPath.Rewrites (.binary [0x31]) (.text "1")
      ∧ byText.Rewrites (.text "") .empty
      ∧ byText.Rewrites (.json (.number tiny)) (.json (.number nextToTiny)) := by
  refine ⟨?_, ?_, ?_, ?_⟩
  · obtain ⟨v, hparse, hpaths, hrender⟩ := exists_parse_spaced
    have hwritten : withDocument (.text spaced) v = .text "\x7b\"a\":1\x7d" :=
      congrArg Payload.text hrender
    have hchanged : Payload.text "\x7b\"a\":1\x7d" ≠ .text spaced := by simp [spaced]
    have hrewrites := rewrites_byPath (p := .text spaced) hparse (by decide)
      (by rw [hpaths]; decide) (hwritten ▸ hchanged)
    rwa [hwritten] at hrewrites
  · have hparse : (Payload.binary [0x31]).document = .ok (.number (.whole 1 (by decide))) :=
      Json.Number.isRead_iff.1 (by decide +kernel)
    exact rewrites_byPath hparse rfl (by decide) (by simp [withDocument])
  · have hrun : (byText.translatePayload {} (carrying (.text "")).message).run {}
        = .ok (.empty, {}) := by
      show (translateText {} _ [] >>= _).run {} = _
      rw [translateText_byText (by simp), pure_bind]
      rfl
    refine ⟨not_applies_byText (by simp [Payload.plain]), ?_, by simp⟩
    exact outcome_translate_of_ok (isBuiltIn_of_simple rfl) hrun
  · exact rewrites_byText (by decide +kernel) parse_render_tiny (by simpa using nextToTiny_ne_tiny)

end Dictionary
end Rehearsal
