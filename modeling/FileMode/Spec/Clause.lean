import FileMode.Edit
import FileMode.Spec.Rejection

namespace FileMode

inductive Selector
  | owner
  | group
  | other
  | everyone
  deriving DecidableEq

inductive Operator
  | add
  | remove
  | assign
  deriving DecidableEq

inductive Permission
  | read
  | write
  | execute
  | setId
  deriving DecidableEq

namespace Selector

def ofChar? : Char → Option Selector
  | 'u' => some owner
  | 'g' => some group
  | 'o' => some other
  | 'a' => some everyone
  | _ => none

def char : Selector → Char
  | owner => 'u'
  | group => 'g'
  | other => 'o'
  | everyone => 'a'

def mask : Selector → Perms
  | owner => 0o4700
  | group => 0o2070
  | other => 0o1007
  | everyone => 0o7777

end Selector

namespace Operator

def ofChar? : Char → Option Operator
  | '+' => some add
  | '-' => some remove
  | '=' => some assign
  | _ => none

def char : Operator → Char
  | add => '+'
  | remove => '-'
  | assign => '='

end Operator

namespace Permission

def ofChar? : Char → Option Permission
  | 'r' => some read
  | 'w' => some write
  | 'x' => some execute
  | 's' => some setId
  | _ => none

def char : Permission → Char
  | read => 'r'
  | write => 'w'
  | execute => 'x'
  | setId => 's'

def mask : Permission → Perms
  | read => 0o444
  | write => 0o222
  | execute => 0o111
  | setId => 0o6000

end Permission

def unionMask (masks : List Perms) : Perms := masks.foldl (· ||| ·) 0

structure Clause where
  who : List Selector
  operator : Operator
  permissions : List Permission
  deriving DecidableEq

/-- The letters at the head of a text, with blanks left out, and the text from the first character
that is neither. -/
def letterRun {α : Type} (letter? : Char → Option α) : List Char → List α × List Char
  | [] => ([], [])
  | c :: cs =>
    if c = ' ' then letterRun letter? cs
    else match letter? c with
      | some a =>
        let (as, rest) := letterRun letter? cs
        (a :: as, rest)
      | none => ([], c :: cs)

namespace Clause

def affected (c : Clause) : Perms :=
  if c.who.isEmpty then Selector.everyone.mask else unionMask (c.who.map Selector.mask)

def reach (c : Clause) : Perms := unionMask (c.permissions.map Permission.mask)

def edit (c : Clause) : Edit :=
  match c.operator with
  | .add => .grant (c.reach &&& c.affected)
  | .remove => .clear (c.reach &&& c.affected)
  | .assign => ⟨c.affected, c.reach &&& c.affected⟩

def parse (cs : List Char) : Except Rejection Clause :=
  match letterRun Selector.ofChar? cs with
  | (_, []) => .error .badOperator
  | (who, c :: cs') =>
    match Operator.ofChar? c with
    | none => .error .badOperator
    | some op =>
      match letterRun Permission.ofChar? cs' with
      | (permissions, []) => .ok ⟨who, op, permissions⟩
      | (_, _ :: _) => .error .badChange

def parseAll (cs : List Char) : Except Rejection (List Clause) := (cs.splitOn ',').mapM parse

end Clause

end FileMode
