namespace FileMode

/-- A finite number by the fewest digits that tell it from the others: `d.ddd × 10 ^ exponent`. No
zero ends the digits, and none begins them unless the number is zero. -/
structure Decimal where
  negative : Bool
  lead : Fin 10
  rest : List (Fin 10)
  exponent : Int
  last_ne_zero : rest.getLast? ≠ some 0 := by decide
  zero_of_lead : lead = 0 → rest = [] ∧ exponent = 0 := by decide

namespace Decimal

def digitChars (digits : List (Fin 10)) : List Char := digits.map fun k => Nat.digitChar k.val

def sign (negative : Bool) : List Char := if negative then ['-'] else []

def positional (exponent : Int) (digits : List Char) : List Char :=
  match exponent with
  | .ofNat n =>
    let fraction := digits.drop (n + 1)
    (digits.take (n + 1)).rightpad (n + 1) '0' ++
      '.' :: if fraction.isEmpty then ['0'] else fraction
  | .negSucc n => '0' :: '.' :: (List.replicate n '0' ++ digits)

def scientific (exponent : Int) (lead : Char) (rest : List Char) : List Char :=
  lead :: ((if rest.isEmpty then [] else '.' :: rest) ++
    'e' :: (if exponent < 0 then '-' else '+') ::
      (Nat.toDigits 10 exponent.natAbs).leftpad 2 '0')

def spelling (d : Decimal) : List Char :=
  sign d.negative ++
    if -4 ≤ d.exponent ∧ d.exponent < 16 then
      positional d.exponent (digitChars (d.lead :: d.rest))
    else scientific d.exponent (Nat.digitChar d.lead.val) (digitChars d.rest)

end Decimal

inductive Floating
  | decimal (d : Decimal)
  | infinite (negative : Bool)
  | nan

def Floating.spelling : Floating → List Char
  | decimal d => d.spelling
  | infinite negative => Decimal.sign negative ++ ['i', 'n', 'f']
  | nan => ['n', 'a', 'n']

end FileMode
