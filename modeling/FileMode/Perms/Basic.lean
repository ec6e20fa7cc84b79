namespace FileMode

abbrev Perms := BitVec 12

inductive FileClass
  | owner
  | group
  | other
  deriving DecidableEq

inductive Access
  | read
  | write
  | execute
  deriving DecidableEq

structure Slot where
  who : FileClass
  access : Access
  deriving DecidableEq

namespace FileClass

def all : List FileClass := [owner, group, other]

def special : FileClass → Perms
  | owner => 0o4000
  | group => 0o2000
  | other => 0o1000

end FileClass

namespace Access

def all : List Access := [read, write, execute]

def letter : Access → Char
  | read => 'r'
  | write => 'w'
  | execute => 'x'

end Access

namespace Slot

def all : List Slot :=
  FileClass.all.flatMap fun who => Access.all.map fun access => ⟨who, access⟩

def mask : Slot → Perms
  | ⟨.owner, .read⟩ => 0o400
  | ⟨.owner, .write⟩ => 0o200
  | ⟨.owner, .execute⟩ => 0o100
  | ⟨.group, .read⟩ => 0o040
  | ⟨.group, .write⟩ => 0o020
  | ⟨.group, .execute⟩ => 0o010
  | ⟨.other, .read⟩ => 0o004
  | ⟨.other, .write⟩ => 0o002
  | ⟨.other, .execute⟩ => 0o001

def letter (s : Slot) : Char := s.access.letter

def setId? : Slot → Option Perms
  | ⟨.owner, .execute⟩ => some FileClass.owner.special
  | ⟨.group, .execute⟩ => some FileClass.group.special
  | _ => none

end Slot

namespace Perms

def has (p mask : Perms) : Bool := p &&& mask != 0

def setIds : Perms := FileClass.owner.special ||| FileClass.group.special

end Perms

end FileMode
