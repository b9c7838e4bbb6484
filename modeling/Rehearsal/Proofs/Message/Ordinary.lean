import Rehearsal.Message.Builder
import Rehearsal.Proofs.Scope.Ordinary

/-!
# Messages with ordinary errors

Main statements: in an ordinary scope, building a message and translating one have ordinary errors
only (`Builder.isOrdinary_build`, `Dictionary.isOrdinary_translatePayload`), whatever resources
and script engine there are.
-/

namespace Rehearsal

open Draw

/-! ## Sources -/

/-- A resource that is missing is no name that refers to nothing. -/
theorem Loader.onlyOrdinary_load (l : Loader) (path : String) : OnlyOrdinary (l.load path) := by
  unfold Loader.load
  split
  · split
    · exact .ok _
    · exact .error trivial
  · dsimp only
    split
    · exact .ok _
    · exact .error trivial

theorem Resource.onlyOrdinary_text (r : Resource) (asked : Option String) :
    OnlyOrdinary (r.text asked) := by
  unfold Resource.text
  dsimp only
  split
  · exact .ok _
  · exact .error trivial

section
variable {c : Context}

/-- The path of a resource is a template, and what it leads to is read in its charset. -/
theorem Source.isOrdinary_load (h : c.toScope.IsOrdinary) (source : Source) :
    (source.load c).IsOrdinary := by
  unfold Source.load
  split
  · exact isOrdinary_pure _
  · -- the path is resolved, the resource is found, and its bytes are decoded
    exact isOrdinary_bind (Scope.isOrdinary_resolve h _) fun path =>
      isOrdinary_bind (isOrdinary_liftM (Loader.onlyOrdinary_load _ path)) fun r =>
        isOrdinary_liftM (r.onlyOrdinary_text _)

theorem Source.isOrdinary_resolve (h : c.toScope.IsOrdinary) (source : Source) :
    (source.resolve c).IsOrdinary :=
  isOrdinary_bind (Source.isOrdinary_load h source) fun _ => Scope.isOrdinary_resolve h _

theorem Source.isOrdinary_resolveAll (h : c.toScope.IsOrdinary) (sources : List Source) :
    (Source.resolveAll c sources).IsOrdinary := by
  induction sources with
  | nil => exact isOrdinary_pure _
  | cons s ss ih =>
    exact isOrdinary_bind (s.isOrdinary_resolve h) fun _ =>
      isOrdinary_bind ih fun _ => isOrdinary_pure _

/-! ## Building -/

/-- The names of headers are no templates; their values are. -/
theorem Scope.isOrdinary_resolveEntries {s : Scope} (h : s.IsOrdinary)
    (entries : List (String × Json)) : (s.resolveEntries entries).IsOrdinary := by
  induction entries with
  | nil => exact isOrdinary_pure _
  | cons entry rest ih =>
    exact isOrdinary_bind (isOrdinary_resolveValue h _) fun _ =>
      isOrdinary_bind ih fun _ => isOrdinary_pure _

theorem Scope.isOrdinary_resolveHeaders {s : Scope} (h : s.IsOrdinary) (headers : Assoc Json) :
    (s.resolveHeaders headers).IsOrdinary :=
  isOrdinary_bind (isOrdinary_resolveEntries h _) fun _ => isOrdinary_pure _

theorem Message.isOrdinary_create (payload : Payload) : (Message.create payload).IsOrdinary :=
  isOrdinary_bind isOrdinary_uuid fun _ => isOrdinary_bind isOrdinary_now fun _ =>
    isOrdinary_pure _

theorem Message.isOrdinary_copy (m : Message) : m.copy.IsOrdinary :=
  isOrdinary_bind isOrdinary_uuid fun _ => isOrdinary_bind isOrdinary_now fun _ =>
    isOrdinary_pure _

namespace Builder

theorem isOrdinary_copiedPayload (h : c.toScope.IsOrdinary) (p : Payload) :
    (copiedPayload c p).IsOrdinary := by
  unfold copiedPayload
  split
  · exact isOrdinary_bind (Scope.isOrdinary_resolve h _) fun _ => isOrdinary_pure _
  · exact isOrdinary_pure _

/-- Without a script engine no script is run, and what an engine finds wrong is a fault of the
script. -/
theorem isOrdinary_scriptPayload (h : c.toScope.IsOrdinary) (source : Source) :
    (scriptPayload c source).IsOrdinary := by
  unfold scriptPayload
  split
  · exact isOrdinary_throw trivial
  · refine isOrdinary_bind (source.isOrdinary_resolve h) fun script => ?_
    split
    · exact isOrdinary_pure _
    · exact isOrdinary_throw trivial

theorem isOrdinary_templatePayload (h : c.toScope.IsOrdinary) (source : Option Source) :
    (templatePayload c source).IsOrdinary := by
  unfold templatePayload
  split
  · exact isOrdinary_bind (Source.isOrdinary_resolve h _) fun _ => isOrdinary_pure _
  · exact isOrdinary_pure _

/-- Every builder resolves its parts one after the other; the message itself cannot fail. -/
theorem isOrdinary_buildUntyped (h : c.toScope.IsOrdinary) (b : Builder) :
    (b.buildUntyped c).IsOrdinary := by
  cases b with
  | copying m name headers headerData =>
    exact isOrdinary_bind m.isOrdinary_copy fun m =>
      isOrdinary_bind (isOrdinary_copiedPayload h _) fun _ =>
        isOrdinary_bind (Scope.isOrdinary_resolveHeaders h _) fun _ =>
          isOrdinary_bind (Scope.isOrdinary_resolveHeaders h _) fun _ =>
            isOrdinary_bind (Scope.isOrdinary_resolveAll h _) fun _ =>
              isOrdinary_bind (Source.isOrdinary_resolveAll h _) fun _ => isOrdinary_pure _
  | template name payload headers headerData =>
    exact isOrdinary_bind (isOrdinary_templatePayload h _) fun _ =>
      isOrdinary_bind (Message.isOrdinary_create _) fun _ =>
        isOrdinary_bind (Scope.isOrdinary_resolveHeaders h _) fun _ =>
          isOrdinary_bind (Source.isOrdinary_resolveAll h _) fun _ => isOrdinary_pure _
  | script name source headers headerData =>
    exact isOrdinary_bind (isOrdinary_scriptPayload h _) fun _ =>
      isOrdinary_bind (Message.isOrdinary_create _) fun _ =>
        isOrdinary_bind (Scope.isOrdinary_resolveHeaders h _) fun _ =>
          isOrdinary_bind (Source.isOrdinary_resolveAll h _) fun _ => isOrdinary_pure _

/-- Building a message has ordinary errors only. -/
theorem isOrdinary_build (h : c.toScope.IsOrdinary) (b : Builder) (type : MessageType) :
    (b.build c type).IsOrdinary :=
  isOrdinary_bind (isOrdinary_buildUntyped h b) fun _ => isOrdinary_pure _

end Builder
end

/-! ## Translating -/

namespace Dictionary

variable {s : Scope}

/-- The texts of the mappings are templates. To put them in cannot fail. -/
theorem isOrdinary_translateText (h : s.IsOrdinary) (mappings : List (MappingKey × String))
    (cs : List Char) : (translateText s mappings cs).IsOrdinary := by
  induction mappings generalizing cs with
  | nil => exact isOrdinary_pure _
  | cons m ms ih =>
    exact isOrdinary_bind (Scope.isOrdinary_resolveChars h _) fun new => ih _

/-- The templates of the leaves are resolved in the order of the leaves. -/
theorem isOrdinary_translateLeaves (h : s.IsOrdinary) (strategy : PathStrategy)
    (mappings : Assoc String) (paths : List String) (document : Json) :
    (translateLeaves s strategy mappings paths document).IsOrdinary := by
  induction paths generalizing document with
  | nil => exact isOrdinary_pure _
  | cons path paths ih =>
    rw [translateLeaves]
    split
    · exact ih document
    · exact isOrdinary_bind (Scope.isOrdinary_resolve h _) fun new => ih _

theorem onlyOrdinary_readable (d : Dictionary) (fault : Json.Fault → DictionaryFault)
    (document : Except Json.Fault Json) : OnlyOrdinary (d.readable fault document) := by
  unfold readable
  split
  · exact .ok _
  · exact .error trivial

/-- Translating a payload has ordinary errors only. -/
theorem isOrdinary_translatePayload (h : s.IsOrdinary) (d : Dictionary) (m : Message) :
    (d.translatePayload s m).IsOrdinary := by
  -- simple mappings act on text, paths on documents; what is not built in is no translation of a
  -- payload
  unfold translatePayload
  split
  · split
    · exact isOrdinary_bind (isOrdinary_translateText h _ _) fun _ => isOrdinary_pure _
    · exact isOrdinary_bind (isOrdinary_translateText h _ _) fun _ =>
        isOrdinary_bind (isOrdinary_liftM (onlyOrdinary_readable d _ _)) fun _ => isOrdinary_pure _
    · exact isOrdinary_pure _
  · split
    · exact isOrdinary_pure _
    · refine isOrdinary_bind (isOrdinary_liftM (onlyOrdinary_readable d _ _)) fun document => ?_
      refine isOrdinary_bind (isOrdinary_translateLeaves h _ _ _ _) fun document' => ?_
      split
      · exact isOrdinary_pure _
      · exact isOrdinary_pure _
  · exact isOrdinary_pure _

end Dictionary
end Rehearsal
