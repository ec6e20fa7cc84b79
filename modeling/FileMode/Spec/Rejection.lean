namespace FileMode

inductive Rejection
  | badSlots
  | badOctal
  | badOperator
  | badChange
  deriving DecidableEq

namespace Rejection

def all : List Rejection := [badSlots, badOctal, badOperator, badChange]

def name : Rejection → String
  | badSlots => "BAD_RWX_TOKEN"
  | badOctal => "BAD_OCTAL_SYNTAX"
  | badOperator => "BAD_OPERATOR"
  | badChange => "BAD_CHANGE_SYNTAX"

def message : Rejection → String
  | badSlots => "bad rwxrwxrwx mode change"
  | badOctal => "bad octal mode"
  | badOperator => "bad operator"
  | badChange => "bad mode change"

/-- The negative result by which a cause is also known; two causes share one. -/
def legacyCode : Rejection → Int
  | badSlots => -4
  | badOctal => -4
  | badOperator => -1
  | badChange => -2

def ofName? (s : String) : Option Rejection := all.find? (·.name = s)

end Rejection

end FileMode
