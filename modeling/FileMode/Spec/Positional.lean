import FileMode.Edit
import FileMode.Spec.Rejection

namespace FileMode

inductive Mark
  | on
  | off
  | setId (bit : Perms)
  | keep
  deriving DecidableEq

namespace Mark

def read (strict : Bool) (s : Slot) (c : Char) : Except Rejection Mark :=
  if c = s.letter then .ok .on
  else if c = '-' then .ok .off
  else if c = 's' then
    match s.setId? with
    | some bit => .ok (.setId bit)
    | none => .error .badSlots
  else if strict then .error .badSlots
  else .ok .keep

def edit (s : Slot) : Mark → Edit
  | on => .grant s.mask
  | off => .clear s.mask
  | setId bit => .grant (bit ||| s.mask)
  | keep => .keep

end Mark

abbrev Marks := List (Slot × Mark)

namespace Marks

def parse (strict : Bool) (cs : List Char) : Except Rejection Marks :=
  if strict && cs.length != Slot.all.length then .error .badSlots
  else (Slot.all.zip cs).mapM fun (s, c) => (Mark.read strict s c).map (s, ·)

/-- The set-ID bits last only if they are written again. -/
def edits (ms : Marks) : List Edit := .clear Perms.setIds :: ms.map fun (s, m) => m.edit s

end Marks

end FileMode
