namespace FileMode.Octal

def isDigit (c : Char) : Bool := '0' ≤ c && c ≤ '7'

def digitValue (c : Char) : Nat := c.toNat - '0'.toNat

def value (digits : List Char) : Nat := digits.foldl (fun n c => n * 8 + digitValue c) 0

def numeral (n : Nat) : String := String.ofList (Nat.toDigits 8 n)

def paddedNumeral (width n : Nat) : String :=
  let digits := Nat.toDigits 8 n
  String.ofList (List.replicate (width - digits.length) '0' ++ digits)

end FileMode.Octal
