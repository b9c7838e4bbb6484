import Rehearsal.Text.Search

/-!
# Escaping for markup

Five characters mean something in markup and are written as entities. `escapeEach` goes over the
text once; `escapeInTurn` replaces one character after the other in the whole text, the ampersand
first, so that no ampersand of an entity is replaced again.
-/

namespace Rehearsal.Text

/-- The characters that are escaped, with their entities, the ampersand first. -/
def entities : List (Char × List Char) :=
  [('&', "&amp;".toList), ('<', "&lt;".toList), ('>', "&gt;".toList), ('"', "&quot;".toList),
    ('\x27', "&apos;".toList)]

/-- The written form of a character. -/
def escapeChar (c : Char) : List Char :=
  match entities.find? (·.1 = c) with
  | some (_, entity) => entity
  | none => [c]

/-- Escape a text character by character. -/
def escapeEach (cs : List Char) : List Char := cs.flatMap escapeChar

/-- Escape a text by one replacement in the whole text after the other. -/
def escapeInTurn (cs : List Char) : List Char :=
  entities.foldl (fun cs (c, entity) => replaceAll [c] entity cs) cs

end Rehearsal.Text
