import FileMode.Mode

namespace FileMode.FileSystem

/-- A binary fraction of seconds: the mantissa, halved so many times. -/
structure Timestamp where
  mantissa : Int
  halvings : Nat
  deriving DecidableEq

namespace Timestamp

def ofSeconds (n : Int) : Timestamp := ⟨n, 0⟩

def ofFloat (x : Float) : Timestamp :=
  let bits := x.toBits.toNat
  let exponent := (bits >>> 52) % 0x800
  let fraction := bits % 0x10000000000000
  let significand : Nat := if exponent = 0 then fraction else 0x10000000000000 + fraction
  let scale := max exponent 1
  let magnitude : Nat := significand <<< (scale - 1075)
  let mantissa : Int := if bits < 0x8000000000000000 then magnitude else -magnitude
  ⟨mantissa, 1075 - scale⟩

def seconds (t : Timestamp) : Int := t.mantissa.tdiv (1 <<< t.halvings : Nat)

end Timestamp

structure Status (Time : Type) where
  ino : Int
  mode : Mode
  nlink : Int
  uid : Int
  gid : Int
  size : Int
  atime : Time
  mtime : Time
  ctime : Time
  deriving DecidableEq

namespace Status

def inSeconds (s : Status Timestamp) : Status Int :=
  { s with atime := s.atime.seconds, mtime := s.mtime.seconds, ctime := s.ctime.seconds }

variable {Time : Type} (s : Status Time)

def permissions : String := s.mode.render

def typeName : String := s.mode.typeName

def isFile : Bool := s.mode.isType .regular

def isDirectory : Bool := s.mode.isType .directory

def isSymbolicLink : Bool := s.mode.isType .link

end Status

end FileMode.FileSystem
