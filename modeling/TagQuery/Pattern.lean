import TagQuery.Pattern.Automaton
import TagQuery.Pattern.Reader

/-!
# Patterns

A regular expression together with the text that writes it.  A pattern is
looked for anywhere in a text.
-/

namespace TagQuery

/-- A regular expression that has been read. -/
structure Pattern where
  source : String
  expr : Pattern.Expr

namespace Pattern

/-- A text that cannot be read as a pattern, or one of a pattern that is too large. -/
structure Invalid where
  source : String
  deriving DecidableEq, Repr

/-- Reads a pattern under the flags; it must not be too large. -/
def ofSourceUnder (flags : Flags) (source : String) : Except Invalid Pattern :=
  match read? flags source.toList with
  | some expr => if expr.isSmall then .ok ⟨source, expr⟩ else .error ⟨source⟩
  | none => .error ⟨source⟩

def ofSource (source : String) : Except Invalid Pattern :=
  ofSourceUnder .plain source

/-- Reads a pattern whose letters match all their forms. -/
def ofSourceIgnoringCase (source : String) : Except Invalid Pattern :=
  ofSourceUnder { Flags.plain with ignoreCase := true } source

def occursIn (pattern : Pattern) (text : String) : Bool :=
  pattern.expr.occursIn text.toList.toArray

end Pattern

end TagQuery
