import EdgeSieve.Regex.Line
import EdgeSieve.Regex.OfText

namespace EdgeSieve

abbrev PatternFault := Regex.Written.Fault

/-- A text with the expression that it writes, once names of characters are known. -/
structure Pattern : Type where
  text : String
  regex : Regex
  written : ∃ table, Regex.ofText table text.toList = .ok regex
  deriving DecidableEq

namespace Pattern

def ofText (table : CharNames) (text : String) : Except PatternFault Pattern :=
  match h : Regex.ofText table text.toList with
  | .ok regex => .ok ⟨text, regex, table, h⟩
  | .error fault => .error fault

def matchesAll (p : Pattern) (text : String) : Bool := p.regex.fullMatch text.toList

def anything : Pattern where
  text := ".*"
  regex := .restOfLine
  written := ⟨⟨fun _ => none⟩, rfl⟩

theorem matchesAll_anything {text : String} :
    anything.matchesAll text = true ↔ '\n' ∉ text.toList := by
  have least : Regex.restOfLine.least = 0 := rfl
  simp [matchesAll, anything, Regex.fullMatch, least, Regex.run_restOfLine, Cursor.start]

end Pattern

end EdgeSieve
