import Rehearsal.Assoc

/-!
# Libraries

A library gives names to things of one kind and has a qualifier, under which its names are looked
up. Libraries stand in a list, and several may share a qualifier: of those that know a name the
first one counts. Adding a library puts it behind the others, so it never changes what a known name
means; overriding puts it in front.
-/

namespace Rehearsal

/-- Things with names, under one qualifier. -/
structure Library (α : Type) where
  name : String
  qualifier : String
  entries : Assoc α

abbrev Libraries (α : Type) := List (Library α)

namespace Libraries

variable {α : Type}

/-- Put a library behind the others. -/
def add (libs : Libraries α) (l : Library α) : Libraries α := libs ++ [l]

/-- Put a library in front of the others. -/
def override (libs : Libraries α) (l : Library α) : Libraries α := l :: libs

/-- Does a library have this qualifier? -/
def knows (libs : Libraries α) (qualifier : String) : Bool := libs.any (·.qualifier = qualifier)

/-- What a name means: its entry in the first library that has the qualifier and knows the name. -/
def lookup? (libs : Libraries α) (qualifier name : String) : Option α :=
  libs.findSome? fun l => if l.qualifier = qualifier then l.entries.get? name else none

end Libraries
end Rehearsal
