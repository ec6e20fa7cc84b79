import FileMode.Perms.Basic

namespace FileMode

def FileClass.specialLetter : FileClass → Char
  | owner => 's'
  | group => 's'
  | other => 't'

def Slot.glyph (p : Perms) (s : Slot) : Char :=
  if s.access = .execute ∧ p.has s.who.special then
    if p.has s.mask then s.who.specialLetter else s.who.specialLetter.toUpper
  else if p.has s.mask then s.letter
  else '-'

namespace Perms

def glyphs (p : Perms) : List Char := Slot.all.map (Slot.glyph p)

def render (p : Perms) : String := String.ofList p.glyphs

end Perms

end FileMode
