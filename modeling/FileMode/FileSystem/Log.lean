import FileMode.Argument
import FileMode.FileSystem.Mask

namespace FileMode.FileSystem

inductive Level
  | debug
  | warning
  deriving DecidableEq

def Level.name : Level → String
  | debug => "DEBUG"
  | warning => "WARNING"

structure Record where
  level : Level
  text : String
  deriving DecidableEq

namespace Record

def chmodRefused (path : String) (spec : Argument) : Record :=
  ⟨.warning, "rejected mode " ++ spec.spelled ++ " for " ++ path⟩

def chmodDone (path : String) (before after : Perms) (spec : String) : Record :=
  ⟨.debug, "chmod " ++ path ++ ": " ++ Octal.numeral before.toNat ++ " -> " ++
    Octal.numeral after.toNat ++ " (" ++ spec ++ ")"⟩

def umaskRefused (spec : Argument) : Record :=
  ⟨.warning, "rejected umask mode " ++ spec.spelled⟩

def umaskDone (before after : Mask) (spec : String) : Record :=
  ⟨.debug, "umask " ++ before.numeral ++ " -> " ++ after.numeral ++ " (" ++ spec ++ ")"⟩

end Record

end FileMode.FileSystem
