import FileMode.Change
import FileMode.FileSystem.Log
import FileMode.FileSystem.Table

namespace FileMode.FileSystem

structure Host where
  files : Table
  mask : Mask

structure Reply (α : Type) where
  result : Except SystemError α
  log : List Record
  host : Host

def Reply.map {α β : Type} (f : α → β) (r : Reply α) : Reply β := ⟨r.result.map f, r.log, r.host⟩

namespace Host

variable (h : Host)

def stat (path : String) : Reply (Status Int) :=
  match h.files.walk Entry.statFault false path with
  | .error fault => ⟨.error (.ofFault ⟨"lstat", some path⟩ fault), [], h⟩
  | .ok (_, e) => ⟨.ok e.status.inSeconds, [], h⟩

def chmod (path : String) (spec : Argument) (o : Options) : Reply Perms :=
  let call : Call := ⟨"chmod", some path⟩
  match h.files.walk Entry.statFault true path with
  | .error fault => ⟨.error (.ofFault call fault), [], h⟩
  | .ok (_, e) =>
    match call.guardedChange o spec e.status.mode with
    | .error refused => ⟨.error refused, [.chmodRefused path spec], h⟩
    | .ok (text, m) =>
      match h.files.walk Entry.chmodFault true path with
      | .error fault => ⟨.error (.ofFault call fault), [], h⟩
      | .ok (target, _) =>
        ⟨.ok m.perms, [.chmodDone path e.status.mode.perms m.perms text],
          { h with files := h.files.modify target (Entry.setPerms m.perms) }⟩

def swapMask (mask : Mask) : Mask × Host := (h.mask, { h with mask := mask })

def umask (spec : Argument) (o : Options) : Reply String :=
  -- a look at the mask sets it, and sets it back
  let (old, exposed) := h.swapMask 0
  let (_, h) := exposed.swapMask old
  match spec with
  | .null => ⟨.ok old.allowed.render, [], h⟩
  | spec =>
    match Call.guardedChange ⟨"umask", none⟩ o spec old.allowed with
    | .error refused => ⟨.error refused, [.umaskRefused spec], h⟩
    | .ok (text, m) =>
      let allowed := Mask.allowable m
      let mask := Mask.allowing allowed
      ⟨.ok allowed.render, [.umaskDone old mask text], (h.swapMask mask).2⟩

end Host

end FileMode.FileSystem
