import RepositoryAccess.Document.Value
import RepositoryAccess.Document.Quote

namespace RepositoryAccess.Document

def digit? (radix : Nat) (c : Char) : Option Nat := do
  let value ← hexDigit? c
  if value < radix then some value else none

def isDigitOf (radix : Nat) (c : Char) : Bool := (digit? radix c).isSome

def moreDigits (radix : Nat) : List Char → Option (List Char × List Char)
  | [] => some ([], [])
  | '_' :: c :: rest => if isDigitOf radix c then do
      let (digits, rest) ← moreDigits radix rest
      return (c :: digits, rest)
    else none
  | c :: rest => if isDigitOf radix c then do
      let (digits, rest) ← moreDigits radix rest
      return (c :: digits, rest)
    else if c = '_' then none
    else some ([], c :: rest)

def digits (radix : Nat) : Read (List Char)
  | c :: rest => if isDigitOf radix c then do
      let (digits, rest) ← moreDigits radix rest
      return (c :: digits, rest)
    else none
  | [] => none

def wholeDigits : Read (List Char)
  | '0' :: rest => some (['0'], rest)
  | cs => digits 10 cs

def valueOf (radix : Nat) (digits : List Char) : Nat :=
  digits.foldl (fun value c => value * radix + (digit? radix c).getD 0) 0

def isWord (value : Int) : Bool := -0x8000000000000000 ≤ value && value ≤ 0x7fffffffffffffff

def word? (value : Int) : Option Value := if isWord value then some (.integer value) else none

def sign : List Char → Option Char × List Char
  | '+' :: rest => (some '+', rest)
  | '-' :: rest => (some '-', rest)
  | cs => (none, cs)

-- Halfway between the largest double and the next power of two; from there on a number is too large.
def doubleEnd : Nat := Nat.pow 2 1024 - Nat.pow 2 970

-- Whether `significand · 10 ^ exponent` is too large; far from the end the size alone tells.
def tooLarge (significand : Nat) (exponent : Int) : Bool :=
  let size := (Nat.toDigits 10 significand).length + exponent
  if significand = 0 || size < 300 then false
  else if size > 320 then true
  else if exponent ≥ 0 then significand * Nat.pow 10 exponent.toNat ≥ doubleEnd
  else significand ≥ doubleEnd * Nat.pow 10 (-exponent).toNat

def fraction : List Char → Option (List Char × List Char)
  | '.' :: rest => digits 10 rest
  | cs => some ([], cs)

def exponent : List Char → Option (Option Int × List Char)
  | [] => some (none, [])
  | c :: rest =>
    if c = 'e' || c = 'E' then do
      let (sign, rest) := sign rest
      let (digits, rest) ← digits 10 rest
      let value : Int := valueOf 10 digits
      return (some (if sign = some '-' then -value else value), rest)
    else some (none, c :: rest)

def taken (before after : List Char) : String := String.ofList (before.take (before.length - after.length))

def decimalNumber : Read Value := fun cs => do
  let (sign, unsigned) := sign cs
  match unsigned with
  | 'i' :: 'n' :: 'f' :: rest => return (.decimal (taken cs rest), rest)
  | 'n' :: 'a' :: 'n' :: rest => return (.decimal (taken cs rest), rest)
  | _ => do
    let (whole, rest) ← wholeDigits unsigned
    let (part, rest) ← fraction rest
    let (power, rest) ← exponent rest
    if part.isEmpty && power.isNone then do
      let value : Int := valueOf 10 whole
      return (← word? (if sign = some '-' then -value else value), rest)
    else if sign ≠ some '-' && tooLarge (valueOf 10 (whole ++ part)) (power.getD 0 - part.length) then none
    else return (.decimal (taken cs rest), rest)

def integerIn (radix : Nat) : Read Value := fun cs => do
  let (digits, rest) ← digits radix cs
  return (← word? (valueOf radix digits), rest)

def number : Read Value
  | '0' :: 'x' :: rest => integerIn 16 rest
  | '0' :: 'o' :: rest => integerIn 8 rest
  | '0' :: 'b' :: rest => integerIn 2 rest
  | cs => decimalNumber cs

end RepositoryAccess.Document
