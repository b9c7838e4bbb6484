import Rehearsal.Call
import Rehearsal.Template

/-!
# Expressions

What a template says, as a tree. The body of a placeholder is a call if it has the shape of one and
its qualifier is known, and else the name of a variable. An argument of a call is a call or else a
template of its own. A template whose placeholder is never closed is an expression as well; it has
no value. `ofTemplate` reads a template; every text it reads on the way is a piece of the one it
reads it from, and a shorter one, whatever the variables hold.
-/

namespace Rehearsal

/-- What a template says. -/
inductive Expression
  | literal (text : List Char)
  | lookup (name : List Char)
  | call (qualifier name : String) (args : List Expression)
  | template (parts : List Expression)
  | unterminated (template : List Char)

namespace Expression

/-- The call that a text is, if its qualifier is known. -/
def call? (known : String → Bool) (cs : List Char) : Option Call :=
  (Call.parse? cs).filter fun c => known c.qualifier

theorem length_of_mem_args {known : String → Bool} {cs a : List Char} {c : Call}
    (h : call? known cs = some c) (ha : a ∈ c.args) : a.length + 5 ≤ cs.length := by
  have hc : Call.parse? cs = some c := (Option.filter_eq_some_iff.1 h).1
  have := Call.length_flatten_of_parse? hc
  have := (List.sublist_flatten_of_mem ha).length_le
  omega

mutual
/-- The expression of a template. -/
def ofTemplate (known : String → Bool) (cs : List Char) : Expression :=
  match h : Template.split? cs with
  | none => .unterminated cs
  | some segments => .template (segments.attach.map fun ⟨s, hs⟩ =>
      match s, hs with
      | .literal t, _ => .literal t
      | .placeholder body, hs =>
        have := Template.length_of_mem_split? h hs
        ofPlaceholder known body)
termination_by (cs.length, 0)

/-- The expression of the body of a placeholder. -/
def ofPlaceholder (known : String → Bool) (body : List Char) : Expression :=
  match h : call? known body with
  | some c => .call c.qualifier c.name (c.args.attach.map fun ⟨a, ha⟩ =>
      have := length_of_mem_args h ha
      ofArgument known a)
  | none => .lookup (Text.trim body)
termination_by (body.length, 1)

/-- The expression of an argument of a call. -/
def ofArgument (known : String → Bool) (arg : List Char) : Expression :=
  match h : call? known arg with
  | some c => .call c.qualifier c.name (c.args.attach.map fun ⟨a, ha⟩ =>
      have := length_of_mem_args h ha
      ofArgument known a)
  -- an argument that is no call may hold placeholders of its own
  | none => ofTemplate known arg
termination_by (arg.length, 1)
end

/-- The expression of a segment of a template. -/
def ofSegment (known : String → Bool) : Template.Segment → Expression
  | .literal t => .literal t
  | .placeholder body => ofPlaceholder known body

theorem ofTemplate_eq (known : String → Bool) (cs : List Char) :
    ofTemplate known cs = match Template.split? cs with
      | none => .unterminated cs
      | some segments => .template (segments.map (ofSegment known)) := by
  rw [ofTemplate]
  split
  · next h => simp [h]
  · next segments h =>
    simp only [h, Expression.template.injEq]
    refine Eq.trans ?_ List.attach_map_val
    apply List.map_congr_left
    rintro ⟨s, hs⟩ -
    cases s <;> rfl

theorem ofPlaceholder_eq (known : String → Bool) (body : List Char) :
    ofPlaceholder known body = match call? known body with
      | some c => .call c.qualifier c.name (c.args.map (ofArgument known))
      | none => .lookup (Text.trim body) := by
  rw [ofPlaceholder]
  split
  · next c h => simp [h]
  · next h => simp [h]

theorem ofArgument_eq (known : String → Bool) (arg : List Char) :
    ofArgument known arg = match call? known arg with
      | some c => .call c.qualifier c.name (c.args.map (ofArgument known))
      | none => ofTemplate known arg := by
  rw [ofArgument]
  split
  · next c h => simp [h]
  · next h => simp [h]

end Expression
end Rehearsal
