import RepositoryAccess.Pattern.Syntax

namespace RepositoryAccess.Lookaround
open RepositoryAccess.Pattern

structure Look where
  behind : Bool
  negative : Bool
  deriving DecidableEq, Repr

-- Parts that an ordinary expression could do without looking around are kept as its text.
inductive Expr
  | empty
  | any (newline : Bool)
  | char (c : Char) (anyCase : Bool)
  | place (place : Place)
  | plain (text : List Char) (anyCase : Bool)
  | concat (parts : List Expr)
  | alt (branches : List Expr)
  | group (number : Nat) (referenced : Bool) (child : Expr)
  | loop (child : Expr) (least : Nat) (most : Option Nat) (greedy : Bool)
  | look (kind : Look) (child : Expr)
  | backref (number : Nat)
  | atomic (child : Expr)
  | keepOut
  | searchStart
  | matched (number : Nat)
  | condition (test yes no : Expr)

def isWordPlace : Place → Bool
  | .wordEdge _ | .wordInside _ | .wordStart _ | .wordEnd _ => true
  | _ => false

namespace Expr

def isEmpty : Expr → Bool
  | .empty => true
  | _ => false

def isRepeatable : Expr → Bool
  | .look .. | .empty | .place _ => false
  | _ => true

mutual
def isHard : Expr → Bool
  | .empty | .any _ | .char .. | .plain .. => false
  | .place kind => isWordPlace kind
  | .concat parts => anyHard parts
  | .alt branches => anyHard branches
  | .group _ referenced child => referenced || child.isHard
  | .loop child .. => child.isHard
  | .condition .. | .look .. | .backref _ | .atomic _ | .keepOut | .searchStart | .matched _ => true

def anyHard : List Expr → Bool
  | [] => false
  | part :: rest => part.isHard || anyHard rest
end

mutual
def minSize : Expr → Nat
  | .any _ | .char .. | .plain .. => 1
  | .concat parts => totalSize parts
  | .alt branches => leastSize branches
  | .group _ _ child => child.minSize
  | .loop child least .. => child.minSize * least
  | .atomic child => child.minSize
  | .condition test yes no => test.minSize + min yes.minSize no.minSize
  | .empty | .place _ | .look .. | .backref _ | .keepOut | .searchStart | .matched _ => 0

def totalSize : List Expr → Nat
  | [] => 0
  | part :: rest => part.minSize + totalSize rest

def leastSize : List Expr → Nat
  | [] => 0
  | [branch] => branch.minSize
  | branch :: rest => min branch.minSize (leastSize rest)
end

mutual
def isConstSize : Expr → Bool
  | .concat parts => allConstSize parts
  | .alt branches => allSameSize (leastSize branches) branches
  | .group _ _ child => child.isConstSize
  | .loop child least most _ => child.isConstSize && most == some least
  | .atomic child => child.isConstSize
  | .condition test yes no =>
    test.isConstSize && yes.isConstSize && no.isConstSize && yes.minSize == no.minSize
  | .backref _ => false
  | .empty | .any _ | .char .. | .plain .. | .place _ | .look .. | .keepOut | .searchStart
  | .matched _ => true

def allConstSize : List Expr → Bool
  | [] => true
  | part :: rest => part.isConstSize && allConstSize rest

def allSameSize (size : Nat) : List Expr → Bool
  | [] => true
  | branch :: rest => branch.isConstSize && branch.minSize == size && allSameSize size rest
end

mutual
def literal? : Expr → Option (List Char)
  | .char c false => some [c]
  | .concat parts => literals? parts
  | _ => none

def literals? : List Expr → Option (List Char)
  | [] => some []
  | part :: rest =>
    match part.literal?, literals? rest with
    | some first, some others => some (first ++ others)
    | _, _ => none
end

end Expr

def needsEscape (c : Char) : Bool := "\\.+*?()|[]\x7b\x7d^$#".toList.contains c

def escaped (c : Char) : List Char := if needsEscape c then ['\\', c] else [c]

def wrapped (opening : String) (inner : List Char) : List Char := opening.toList ++ inner ++ [')']

def wrappedIf (condition : Bool) (opening : String) (inner : List Char) : List Char :=
  if condition then wrapped opening inner else inner

def countText (least : Nat) (most : Option Nat) : List Char :=
  match least, most with
  | 0, some 1 => ['?']
  | 0, none => ['*']
  | 1, none => ['+']
  | least, none => ("\x7b" ++ toString least ++ ",\x7d").toList
  | least, some most =>
    if least == most then ("\x7b" ++ toString least ++ "\x7d").toList
    else ("\x7b" ++ toString least ++ "," ++ toString most ++ "\x7d").toList

namespace Expr

mutual
-- A plain expression as the text of an ordinary pattern.  `level` says what surrounds it: a whole
-- pattern, a branch, a run of parts, or something that is repeated.
def text (level : Nat) : Expr → List Char
  | .any newline => if newline then "(?s:.)".toList else ['.']
  | .char c anyCase => wrappedIf anyCase "(?i:" (escaped c)
  | .place .textStart => ['^']
  | .place .textEnd => ['$']
  | .place .lineStart => "(?m:^)".toList
  | .place .lineEnd => "(?m:$)".toList
  | .plain inner anyCase => wrappedIf anyCase "(?i:" inner
  | .concat parts => wrappedIf (level > 1) "(?:" (concatText parts)
  | .alt branches => wrappedIf (level > 0) "(?:" (altText branches)
  | .group _ _ child => wrapped "(" (child.text 0)
  | .loop child least most greedy =>
    wrappedIf (level > 2) "(?:" (child.text 3 ++ countText least most ++ (if greedy then [] else ['?']))
  | _ => []

def concatText : List Expr → List Char
  | [] => []
  | part :: rest => part.text 2 ++ concatText rest

def altText : List Expr → List Char
  | [] => []
  | [branch] => branch.text 1
  | branch :: rest => branch.text 1 ++ '|' :: altText rest
end

end Expr
end RepositoryAccess.Lookaround
