import Mathlib.Data.List.Basic
import Rehearsal.Function.Text

/-!
# Escaped texts

The two ways of escaping a text give the same one, in which an ampersand is always the beginning of
an entity. `unescape` reads the entities back in one pass. Main statement: nothing is lost, whatever
ampersands and parts of entities there were in the text before (`escaping_agrees`).
-/

namespace Rehearsal.Text

/-! ## Replacing in turn -/

/-- Replacing goes on behind the first place. -/
theorem replaceAll_eq {needle : List Char} (hn : needle ≠ []) (new cs : List Char) :
    replaceAll needle new cs = match cut? needle cs with
      | none => cs
      | some (a, b) => a ++ new ++ replaceAll needle new b := by
  rw [replaceAll, dif_neg hn]
  split
  · next h => simp only [h]
  · next a b h => simp only [h]

/-- A single character is replaced wherever it stands. -/
theorem replaceAll_singleton (c : Char) (new cs : List Char) :
    replaceAll [c] new cs = cs.flatMap fun d => if d = c then new else [d] := by
  have hc : [c] ≠ [] := List.cons_ne_nil _ _
  induction cs with
  | nil => rw [replaceAll_eq hc]; rfl
  | cons d ds ih =>
    rw [List.flatMap_cons, ← ih, replaceAll_eq hc]
    by_cases h : d = c
    · simp [cut?, strip?, h]
    · rw [replaceAll_eq hc _ ds]
      cases hcut : cut? [c] ds <;> simp [cut?, strip?, h, Ne.symm h, hcut]

/-- Replacements of single characters, one after the other in the whole text. -/
def replaceInTurn (rs : List (Char × List Char)) (cs : List Char) : List Char :=
  rs.foldl (fun cs (c, new) => replaceAll [c] new cs) cs

theorem replaceInTurn_cons (c : Char) (new : List Char) (rs : List (Char × List Char))
    (cs : List Char) : replaceInTurn ((c, new) :: rs) cs
      = replaceInTurn rs (cs.flatMap fun d => if d = c then new else [d]) := by
  rw [← replaceAll_singleton]
  rfl

/-- They act on every character of the text by itself. -/
theorem replaceInTurn_eq_flatMap (rs : List (Char × List Char)) (cs : List Char) :
    replaceInTurn rs cs = cs.flatMap fun d => replaceInTurn rs [d] := by
  induction rs generalizing cs with
  | nil => simp [replaceInTurn]
  | cons r rs ih =>
    obtain ⟨c, new⟩ := r
    simp only [replaceInTurn_cons, List.flatMap_singleton]
    rw [ih, List.flatMap_assoc]
    exact congrArg (fun f => cs.flatMap f) (funext fun d => (ih _).symm)

/-- Where none of the characters is there, nothing is replaced. -/
theorem replaceInTurn_of_not_mem {rs : List (Char × List Char)} {cs : List Char}
    (h : ∀ r ∈ rs, r.1 ∉ cs) : replaceInTurn rs cs = cs := by
  induction rs with
  | nil => rfl
  | cons r rs ih =>
    obtain ⟨c, new⟩ := r
    obtain ⟨hr, hrs⟩ := List.forall_mem_cons.1 h
    have hcs : cs.flatMap (fun d => if d = c then new else [d]) = cs := by
      rw [List.flatMap_congr fun d hd => if_neg fun hdc : d = c => hr (hdc ▸ hd),
        List.flatMap_singleton']
    rw [replaceInTurn_cons, hcs, ih hrs]

/-- A character is replaced once if no later replacement finds anything in what was put in. -/
theorem replaceInTurn_singleton {rs : List (Char × List Char)}
    (h : rs.Pairwise fun a b => b.1 ∉ a.2) (d : Char) :
    replaceInTurn rs [d] = match rs.find? (·.1 = d) with
      | some (_, new) => new
      | none => [d] := by
  induction h with
  | nil => rfl
  | @cons r rs hr _ ih =>
    obtain ⟨c, new⟩ := r
    rw [replaceInTurn_cons, List.flatMap_singleton]
    by_cases hd : d = c
    · simp [hd, replaceInTurn_of_not_mem hr]
    · simp [hd, Ne.symm hd, ih]

/-- Escaping in turn is escaping each character: no entity has a later one's character in it. -/
theorem escapeInTurn_eq (cs : List Char) : escapeInTurn cs = escapeEach cs := by
  have hlater : entities.Pairwise fun a b => b.1 ∉ a.2 := by decide
  have hturn : escapeInTurn cs = replaceInTurn entities cs := rfl
  rw [hturn, replaceInTurn_eq_flatMap, escapeEach]
  exact congrArg (fun f => cs.flatMap f) (funext fun d => replaceInTurn_singleton hlater d)

/-! ## Escaped characters -/

section
variable {c : Char} {cs r entity : List Char}

/-- A character is written as its entity, or as itself if it has none. -/
theorem escapeChar_cases (c : Char) :
    (∃ entity, (c, entity) ∈ entities ∧ escapeChar c = entity)
      ∨ (∀ e ∈ entities, e.1 ≠ c) ∧ escapeChar c = [c] := by
  unfold escapeChar
  split
  · next d entity h =>
    have hd : d = c := by simpa using List.find?_some h
    exact .inl ⟨entity, hd ▸ List.mem_of_find?_eq_some h, rfl⟩
  · next h => exact .inr ⟨by simpa using h, rfl⟩

theorem escapeEach_cons (c : Char) (cs : List Char) :
    escapeEach (c :: cs) = escapeChar c ++ escapeEach cs := List.flatMap_cons

/-- Behind the ampersand of an entity there is nothing that is escaped. -/
theorem exists_name_of_mem_entities (h : (c, entity) ∈ entities) :
    ∃ name, entity = '&' :: name ∧ ∀ e ∈ entities, e.1 ∉ name := by
  have hall : ∀ e ∈ entities, e.2 = '&' :: e.2.tail ∧ ∀ e' ∈ entities, e'.1 ∉ e.2.tail := by
    decide
  exact ⟨entity.tail, hall _ h⟩

/-- No character is escaped to nothing. -/
theorem escapeChar_ne_nil (c : Char) : escapeChar c ≠ [] := by
  rcases escapeChar_cases c with ⟨entity, he, h⟩ | ⟨-, h⟩
  · obtain ⟨name, rfl, -⟩ := exists_name_of_mem_entities he
    simp [h]
  · simp [h]

theorem escapeEach_eq_nil : escapeEach cs = [] ↔ cs = [] := by
  cases cs with
  | nil => simp [escapeEach]
  | cons c cs => simp [escapeEach, escapeChar_ne_nil]

/-- Of the characters that are escaped only the ampersand is in an escaped text. -/
theorem eq_ampersand_of_mem_escapeEach {e : Char × List Char} (he : e ∈ entities)
    (h : e.1 ∈ escapeEach cs) : e.1 = '&' := by
  obtain ⟨c, -, hc⟩ := List.mem_flatMap.1 h
  rcases escapeChar_cases c with ⟨entity, hentity, hw⟩ | ⟨hplain, hw⟩
  · obtain ⟨name, rfl, hname⟩ := exists_name_of_mem_entities hentity
    rw [hw] at hc
    exact (List.mem_cons.1 hc).resolve_right (hname e he)
  · rw [hw] at hc
    exact absurd (List.mem_singleton.1 hc) (hplain e he)

theorem mem_entities_ampersand : ('&', "&amp;".toList) ∈ entities := List.mem_cons_self

/-- An ampersand in an escaped text begins an entity. -/
theorem exists_entity_of_escapeEach {before after : List Char}
    (h : escapeEach cs = before ++ '&' :: after) : ∃ e ∈ entities, e.2 <+: '&' :: after := by
  induction cs generalizing before with
  | nil => simp [escapeEach] at h
  | cons c cs ih =>
    rw [escapeEach_cons] at h
    rcases List.append_eq_append_iff.1 h with ⟨later, rfl, hlater⟩ | ⟨here, hc, hhere⟩
    · exact ih hlater
    · -- the ampersand stands in the written form of `c`, unless that ends just before it
      cases here with
      | nil => exact @ih [] hhere.symm
      | cons a here =>
        obtain ⟨rfl, rfl⟩ := List.cons.inj hhere
        rcases escapeChar_cases c with ⟨entity, he, hw⟩ | ⟨hplain, hw⟩
        · obtain ⟨name, rfl, hname⟩ := exists_name_of_mem_entities he
          rw [hw] at hc
          cases before with
          | nil =>
            obtain ⟨-, rfl⟩ := List.cons.inj hc
            exact ⟨_, he, escapeEach cs, rfl⟩
          | cons b before =>
            obtain ⟨-, rfl⟩ := List.cons.inj hc
            exact absurd (by simp) (hname _ mem_entities_ampersand)
        · rw [hw] at hc
          have hmem : '&' ∈ [c] := by simp [hc]
          exact absurd (List.mem_singleton.1 hmem) (hplain _ mem_entities_ampersand)

end

/-! ## Reading entities -/

/-- The entity that a text begins with, as its character, and the text behind it. -/
def leadingEntity? (cs : List Char) : Option (Char × List Char) :=
  entities.findSome? fun (c, entity) => (strip? entity cs).map (c, ·)

section
variable {c : Char} {cs r entity : List Char}

/-- Behind an entity the text is shorter. -/
theorem length_of_leadingEntity? (h : leadingEntity? cs = some (c, r)) :
    r.length < cs.length := by
  obtain ⟨⟨d, entity⟩, he, hr⟩ := List.exists_of_findSome?_eq_some h
  obtain ⟨r', hr', heq⟩ := Option.map_eq_some_iff.1 hr
  cases heq
  obtain ⟨name, rfl, -⟩ := exists_name_of_mem_entities he
  rw [strip?_eq_some.1 hr']
  simp only [List.cons_append, List.length_cons, List.length_append]
  omega

/-- No entity is the beginning of another one, so that the one in front is read. -/
theorem leadingEntity?_append (h : (c, entity) ∈ entities) (r : List Char) :
    leadingEntity? (entity ++ r) = some (c, r) := by
  simp only [entities, List.mem_cons, List.not_mem_nil, or_false, Prod.mk.injEq] at h
  rcases h with ⟨rfl, rfl⟩ | ⟨rfl, rfl⟩ | ⟨rfl, rfl⟩ | ⟨rfl, rfl⟩ | ⟨rfl, rfl⟩ <;> rfl

theorem leadingEntity?_cons (h : c ≠ '&') (r : List Char) : leadingEntity? (c :: r) = none := by
  rw [leadingEntity?, List.findSome?_eq_none_iff]
  rintro ⟨d, entity⟩ he
  obtain ⟨name, rfl, -⟩ := exists_name_of_mem_entities he
  simp [strip?, Ne.symm h]

end

/-- Read the entities of a text as their characters, in one pass from the left. All else stands for
itself. -/
def unescape (cs : List Char) : List Char :=
  match cs with
  | [] => []
  | c :: cs =>
    match h : leadingEntity? (c :: cs) with
    | some (d, r) =>
      have := length_of_leadingEntity? h
      d :: unescape r
    | none => c :: unescape cs
termination_by cs.length
decreasing_by
  · assumption
  · exact Nat.lt_succ_self cs.length

section
variable {c : Char} {entity : List Char}

/-- An entity in front is read as its character. -/
theorem unescape_append (h : (c, entity) ∈ entities) (r : List Char) :
    unescape (entity ++ r) = c :: unescape r := by
  have hlead := leadingEntity?_append h r
  obtain ⟨name, rfl, -⟩ := exists_name_of_mem_entities h
  rw [List.cons_append] at hlead ⊢
  rw [unescape]
  split
  · next hsome =>
    rw [hlead] at hsome
    cases hsome
    rfl
  · next hnone => rw [hlead] at hnone; cases hnone

/-- Every other character than the ampersand stands for itself. -/
theorem unescape_cons (h : c ≠ '&') (r : List Char) : unescape (c :: r) = c :: unescape r := by
  rw [unescape]
  split
  · next hsome => rw [leadingEntity?_cons h] at hsome; cases hsome
  · rfl

end

/-- An escaped text is read back. -/
theorem unescape_escapeEach (cs : List Char) : unescape (escapeEach cs) = cs := by
  induction cs with
  | nil => rw [escapeEach, List.flatMap_nil, unescape]
  | cons c cs ih =>
    rw [escapeEach_cons]
    rcases escapeChar_cases c with ⟨entity, he, hw⟩ | ⟨hplain, hw⟩
    · rw [hw, unescape_append he, ih]
    · have hc : c ≠ '&' := Ne.symm (hplain _ mem_entities_ampersand)
      rw [hw, List.singleton_append, unescape_cons hc, ih]

/-! ## The main statement -/

/-- The function on texts and the writer of markup escape a text alike. What they write has no
character in it that means something in markup, except ampersands that begin an entity; it is read
back as the text, and is written for no other one. -/
theorem escaping_agrees (s : String) : ∃ written : List Char,
    Function.escapeXml [s] = pure (String.ofList written)
      ∧ escapeInTurn s.toList = written
      ∧ (∀ c ∈ ['<', '>', '"', '\x27'], c ∉ written)
      ∧ (∀ before after, written = before ++ '&' :: after →
        ∃ e ∈ entities, e.2 <+: '&' :: after)
      ∧ unescape written = s.toList
      ∧ ∀ s' : String, escapeInTurn s'.toList = written → s' = s := by
  refine ⟨escapeEach s.toList, rfl, escapeInTurn_eq _, ?_, fun _ _ => exists_entity_of_escapeEach,
    unescape_escapeEach _, ?_⟩
  · intro c hc hmem
    have hspecial : ∀ c ∈ ['<', '>', '"', '\x27'], c ≠ '&' ∧ ∃ e ∈ entities, e.1 = c := by
      simp [entities]
    obtain ⟨hne, e, he, rfl⟩ := hspecial c hc
    exact hne (eq_ampersand_of_mem_escapeEach he hmem)
  · intro s' h
    rw [escapeInTurn_eq] at h
    have hread := unescape_escapeEach s'.toList
    rw [h, unescape_escapeEach] at hread
    exact String.toList_inj.1 hread.symm

/-- An entity in the text, and a part of one. -/
example : escapeInTurn "&lt;'&".toList = "&amp;lt;&apos;&amp;".toList := by decide +kernel

end Rehearsal.Text
