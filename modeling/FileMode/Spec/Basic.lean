import FileMode.Mode
import FileMode.Octal
import FileMode.Spec.Clause
import FileMode.Spec.Positional

namespace FileMode

structure Options where
  /-- Reject a nine-letter form that is not exactly nine known letters. -/
  strict : Bool := false
  deriving DecidableEq

inductive Spec
  | positional (marks : Marks)
  | octal (value : Nat)
  | symbolic (clauses : List Clause)
  deriving DecidableEq

namespace Spec

def maxOctalLength : Nat := 8

def parseOctal (cs : List Char) : Except Rejection Nat :=
  if cs.length ≤ maxOctalLength && cs.all Octal.isDigit then .ok (Octal.value cs)
  else .error .badOctal

def parseChars (o : Options) (cs : List Char) : Except Rejection Spec :=
  if cs.head? = some 'r' ∨ cs.head? = some '-' then positional <$> Marks.parse o.strict cs
  else if cs.head?.any Octal.isDigit then octal <$> parseOctal cs
  else symbolic <$> Clause.parseAll cs

def parse (o : Options) (text : String) : Except Rejection Spec := parseChars o text.toList

def apply : Spec → Mode → Mode
  | positional marks, m => ⟨m.high, Edit.applyAll marks.edits m.perms⟩
  | octal n, _ => Mode.ofInt n
  | symbolic clauses, m => ⟨m.high, Edit.applyAll (clauses.map Clause.edit) m.perms⟩

end Spec

def Mode.change (o : Options) (text : String) (m : Mode) : Except Rejection Mode :=
  (Spec.parse o text).map (·.apply m)

end FileMode
