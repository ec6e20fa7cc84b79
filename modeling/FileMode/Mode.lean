import FileMode.FileType
import FileMode.Perms.Rendering

namespace FileMode

/-- A mode of any size and sign; a negative one has infinitely many high bits on. -/
@[ext]
structure Mode where
  high : Int
  perms : Perms
  deriving DecidableEq

namespace Mode

def ofInt (n : Int) : Mode := ⟨n / 4096, BitVec.ofInt 12 n⟩

def toInt (m : Mode) : Int := m.high * 4096 + m.perms.toNat

def ofPerms (p : Perms) : Mode := ⟨0, p⟩

def render (m : Mode) : String := m.perms.render

def fileType? (m : Mode) : Option FileType := FileType.ofCode? (BitVec.ofInt 4 m.high)

def typeName (m : Mode) : String :=
  match m.fileType? with
  | some t => t.name
  | none => "?"

def isType (t : FileType) (m : Mode) : Bool := m.fileType? = some t

end Mode

end FileMode
