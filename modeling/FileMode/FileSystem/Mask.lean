import FileMode.Mode
import FileMode.Octal

namespace FileMode.FileSystem

abbrev Mask := BitVec 9

namespace Mask

def ofInt (n : Int) : Mask := BitVec.ofInt 9 n

def allowed (mask : Mask) : Mode := .ofPerms ((~~~mask).setWidth 12)

def allowable (m : Mode) : Mode := .ofPerms (m.perms &&& 0o777)

def allowing (m : Mode) : Mask := ~~~(m.perms.setWidth 9)

def numeral (mask : Mask) : String := Octal.paddedNumeral 3 mask.toNat

end Mask

end FileMode.FileSystem
