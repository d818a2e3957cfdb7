import RepositoryAccess.Lookaround.Matcher
import RepositoryAccess.Text.Quoted

namespace RepositoryAccess.Target
open RepositoryAccess.Text RepositoryAccess.Pattern

-- Texts of patterns are kept as lists of characters, the way they are read.
inductive Shape
  | any
  | exactly (literal : List Char)
  | startingWith (literal : List Char)
  | containing (literal : List Char)
  | excluding (literal : List Char)
  | pattern (anchored : List Char) (regex : Regex)
  | lookaround (anchored : List Char) (matcher : Lookaround.Matcher)

inductive PatternFault
  | pattern
  | lookaround
  deriving DecidableEq, Repr

def isAsciiPunctuation (c : Char) : Bool :=
  0x21 ≤ c.toNat && c.toNat ≤ 0x7E && !c.isAlphanum

def metaCharacters : List Char := ".^$*+?()[]\x7b\x7d|".toList

-- The text that a pattern stands for if it is nothing but characters, some of them escaped.
def literal? : List Char → Option (List Char)
  | [] => some []
  | '\\' :: c :: rest => if isAsciiPunctuation c then (literal? rest).map (c :: ·) else none
  | c :: rest =>
    if c == '\\' || metaCharacters.contains c then none else (literal? rest).map (c :: ·)

def stripStart (opening cs : List Char) : Option (List Char) :=
  if opening.isPrefixOf cs then some (cs.drop opening.length) else none

def stripEnd (ending cs : List Char) : Option (List Char) :=
  if ending.isSuffixOf cs then some (cs.take (cs.length - ending.length)) else none

def stripBoth (opening ending cs : List Char) : Option (List Char) :=
  (stripStart opening cs).bind (stripEnd ending)

def occursIn (needle : List Char) : List Char → Bool
  | [] => needle.isEmpty
  | c :: rest => needle.isPrefixOf (c :: rest) || occursIn needle rest

def matchAll : List Char := ".*".toList

def excludeOpening : List Char := "(?!.*".toList

def excludeEnding : List Char := ".*).*".toList

def lookTokens : List (List Char) := ["(?=", "(?!", "(?<=", "(?<!"].map String.toList

def looksAround (pattern : List Char) : Bool := lookTokens.any fun token => occursIn token pattern

def anchor (pattern : List Char) : List Char := "^(?:".toList ++ pattern ++ ")$".toList

namespace Shape

def simple? (pattern : List Char) : Option Shape :=
  if pattern == matchAll then some .any
  else
    ((stripBoth excludeOpening excludeEnding pattern).bind literal?).map .excluding <|>
    ((stripBoth matchAll matchAll pattern).bind literal?).map .containing <|>
    ((stripEnd matchAll pattern).bind literal?).map .startingWith <|>
    (literal? pattern).map .exactly

def compile (pattern : List Char) : Except PatternFault Shape :=
  match simple? pattern with
  | some shape => .ok shape
  | none =>
    let anchored := anchor pattern
    if looksAround pattern then
      match Lookaround.Matcher.read anchored with
      | some matcher => .ok (.lookaround anchored matcher)
      | none => .error .lookaround
    else
      match Regex.read anchored with
      | some regex => .ok (.pattern anchored regex)
      | none => .error .pattern

def matchesPath (shape : Shape) (path : List Char) : Bool :=
  match shape with
  | .any => true
  | .exactly literal => path == literal
  | .startingWith literal => literal.isPrefixOf path
  | .containing literal => occursIn literal path
  | .excluding literal => !occursIn literal path
  | .pattern _ regex => regex.isMatch path
  | .lookaround _ matcher => matcher.isMatch path

-- What matching costs, roughly; cheap shapes are tried first.
def cost : Shape → Nat
  | .any => 0
  | .exactly _ => 1
  | .startingWith _ => 2
  | .containing _ | .excluding _ => 3
  | .pattern .. => 10
  | .lookaround .. => 20

def describe : Shape → String
  | .any => "Any"
  | .exactly literal => "Exact(" ++ quoted (String.ofList literal) ++ ")"
  | .startingWith literal => "Prefix(" ++ quoted (String.ofList literal) ++ ")"
  | .containing literal => "Contains(" ++ quoted (String.ofList literal) ++ ")"
  | .excluding literal => "Excludes(" ++ quoted (String.ofList literal) ++ ")"
  | .pattern anchored _ => "Pattern(" ++ quoted (String.ofList anchored) ++ ")"
  | .lookaround anchored _ => "Lookaround(" ++ quoted (String.ofList anchored) ++ ")"

end Shape
end RepositoryAccess.Target
