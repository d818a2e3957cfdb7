import RepositoryAccess.Text.Category
import RepositoryAccess.Text.Trait

namespace RepositoryAccess.Text

def isPrintable (c : Char) : Bool :=
  if c.toNat < 128 then 0x20 ≤ c.toNat && c.toNat < 0x7F
  else
    let code := category c
    !(code == "Cc" || code == "Cf" || code == "Cs" || code == "Co" || code == "Cn" ||
      code == "Zl" || code == "Zp" || code == "Zs")

def joinsPrevious (c : Char) : Bool := c.toNat ≥ 128 && Trait.graphemeExtend.holds c

def hexText (n : Nat) : String := String.ofList (Nat.toDigits 16 n)

def quotedChar (c : Char) : String :=
  match c with
  | '\x00' => "\\0"
  | '\t' => "\\t"
  | '\r' => "\\r"
  | '\n' => "\\n"
  | '\\' => "\\\\"
  | '"' => "\\\""
  | c => if isPrintable c && !joinsPrevious c then String.singleton c
         else "\\u\x7b" ++ hexText c.toNat ++ "\x7d"

def quoted (text : String) : String :=
  "\"" ++ String.join (text.toList.map quotedChar) ++ "\""

def quotedSet (texts : List String) : String :=
  "\x7b" ++ String.intercalate ", " (texts.map quoted) ++ "\x7d"

end RepositoryAccess.Text
