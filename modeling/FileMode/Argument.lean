import FileMode.Decimal
import FileMode.Text.Quoted

namespace FileMode

inductive Argument
  | null
  | bool (b : Bool)
  | int (n : Int)
  | float (x : Floating)
  | text (s : String)
  | list (items : List Argument)
  | record (keys : List String) (distinct : keys.Nodup) (value : Fin keys.length → Argument)

namespace Argument

def typeName : Argument → String
  | null => "NoneType"
  | bool _ => "bool"
  | int _ => "int"
  | float _ => "float"
  | text _ => "str"
  | list _ => "list"
  | record .. => "dict"

def intSpelling (n : Int) : List Char := Decimal.sign (n < 0) ++ Nat.toDigits 10 n.natAbs

def separated : List (List Char) → List Char
  | [] => []
  | [cs] => cs
  | cs :: ds :: rest => cs ++ ',' :: ' ' :: separated (ds :: rest)

mutual

def spelling : Argument → List Char
  | null => ['N', 'o', 'n', 'e']
  | bool true => ['T', 'r', 'u', 'e']
  | bool false => ['F', 'a', 'l', 's', 'e']
  | int n => intSpelling n
  | float x => x.spelling
  | text s => Quoted.encode s.toList
  | list items => '[' :: (separated (itemSpellings items) ++ [']'])
  | record keys _ value =>
    let fields := List.ofFn fun i =>
      Quoted.encode (keys.get i).toList ++ ':' :: ' ' :: spelling (value i)
    '\x7b' :: (separated fields ++ ['\x7d'])

def itemSpellings : List Argument → List (List Char)
  | [] => []
  | a :: items => spelling a :: itemSpellings items

end

def spelled (a : Argument) : String := String.ofList a.spelling

end Argument

end FileMode
