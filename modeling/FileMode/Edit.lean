import FileMode.Perms.Basic

namespace FileMode

@[ext]
structure Edit where
  cleared : Perms
  granted : Perms
  deriving DecidableEq

namespace Edit

def apply (e : Edit) (p : Perms) : Perms := (p &&& ~~~e.cleared) ||| e.granted

def applyAll (es : List Edit) (p : Perms) : Perms := es.foldl (fun q e => e.apply q) p

def keep : Edit := ⟨0, 0⟩

def grant (bits : Perms) : Edit := ⟨0, bits⟩

def clear (bits : Perms) : Edit := ⟨bits, 0⟩

end Edit

end FileMode
