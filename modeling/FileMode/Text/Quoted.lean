import FileMode.Text.Printable

namespace FileMode.Quoted

def hexDigits : Nat → Nat → List Char
  | 0, _ => []
  | width + 1, n => hexDigits width (n / 16) ++ [Nat.digitChar (n % 16)]

def codeEscape (n : Nat) : List Char :=
  if n < 0x100 then '\\' :: 'x' :: hexDigits 2 n
  else if n < 0x10000 then '\\' :: 'u' :: hexDigits 4 n
  else '\\' :: 'U' :: hexDigits 8 n

def delimiter (cs : List Char) : Char :=
  if '\x27' ∈ cs ∧ '\x22' ∉ cs then '\x22' else '\x27'

def encodeChar (delimiter c : Char) : List Char :=
  if c = '\\' ∨ c = delimiter then ['\\', c]
  else if c = '\n' then ['\\', 'n']
  else if c = '\r' then ['\\', 'r']
  else if c = '\t' then ['\\', 't']
  else if CharSet.printable.contains c then [c]
  else codeEscape c.toNat

def encode (cs : List Char) : List Char :=
  delimiter cs :: (cs.flatMap (encodeChar (delimiter cs)) ++ [delimiter cs])

def quote (s : String) : String := String.ofList (encode s.toList)

end FileMode.Quoted
