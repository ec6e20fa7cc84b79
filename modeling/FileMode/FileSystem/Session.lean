import FileMode.FileSystem.Host

namespace FileMode.FileSystem

inductive Step
  | stat (path : String)
  | chmod (path : String) (spec : Argument) (o : Options)
  | umask (spec : Argument) (o : Options)
  | setMask (mask : Mask)
  | put (path : String) (e : Entry)
  | remove (path : String)

inductive Outcome
  | status (s : Status Int)
  | perms (p : Perms)
  | allowed (text : String)
  | done

namespace Host

def step (h : Host) : Step → Reply Outcome
  | .stat path => (h.stat path).map .status
  | .chmod path spec o => (h.chmod path spec o).map .perms
  | .umask spec o => (h.umask spec o).map .allowed
  | .setMask mask => ⟨.ok .done, [], { h with mask := mask }⟩
  | .put path e => ⟨.ok .done, [], { h with files := h.files.put path e }⟩
  | .remove path => ⟨.ok .done, [], { h with files := h.files.remove path }⟩

def run (h : Host) : List Step → List (Reply Outcome)
  | [] => []
  | s :: steps => h.step s :: (h.step s).host.run steps

end Host

end FileMode.FileSystem
