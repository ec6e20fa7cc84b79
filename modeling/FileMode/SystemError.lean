import FileMode.Errno
import FileMode.Text.Lowercase

namespace FileMode

structure Fault where
  errno : Option Int
  description : Option String
  deriving DecidableEq

structure Call where
  name : String
  path : Option String
  deriving DecidableEq

structure SystemError where
  code : String
  call : Call
  detail : Option String
  deriving DecidableEq

namespace SystemError

def base (e : SystemError) : String :=
  match e.detail with
  | some d => if d.isEmpty then e.code else d
  | none => e.code

def message (e : SystemError) : String :=
  e.code ++ ": " ++ e.base ++ ", " ++ e.call.name ++
    match e.call.path with
    | some p => " '" ++ p ++ "'"
    | none => ""

def isNotFound (e : SystemError) : Bool := e.code == "ENOENT"

def ofFault (call : Call) (f : Fault) : SystemError where
  code := (f.errno.bind Errno.name?).getD "EIO"
  call := call
  detail := f.description.map Lowercase.lower

def invalid (call : Call) (detail : String) : SystemError := ⟨"EINVAL", call, some detail⟩

end SystemError

end FileMode
