import FileMode.Text.Casing

namespace FileMode.Lowercase

def meetsCased (cs : List Char) : Bool :=
  match cs.dropWhile CharSet.caseIgnorable.contains with
  | [] => false
  | c :: _ => CharSet.cased.contains c

/-- The lower case of one character between what is before it, nearest first, and what is after. -/
def lowerChar (before : List Char) (c : Char) (after : List Char) : List Char :=
  if c = 'Σ' then
    if meetsCased before && !meetsCased after then ['ς'] else ['σ']
  else if c = 'İ' then ['i', '\u0307']
  else [CaseRun.partner c]

def lowerFrom (before : List Char) : List Char → List Char
  | [] => []
  | c :: cs => lowerChar before c cs ++ lowerFrom (c :: before) cs

def lower (s : String) : String := String.ofList (lowerFrom [] s.toList)

end FileMode.Lowercase
