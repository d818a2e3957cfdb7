import RepositoryAccess.Pattern.CharSet

namespace RepositoryAccess.Pattern

inductive Place
  | textStart
  | textEnd
  | lineStart
  | lineEnd
  | wideLineStart
  | wideLineEnd
  | wordEdge (ascii : Bool)
  | wordInside (ascii : Bool)
  | wordStart (ascii : Bool)
  | wordEnd (ascii : Bool)
  | wordStartHalf (ascii : Bool)
  | wordEndHalf (ascii : Bool)
  deriving DecidableEq, Repr

inductive Regex
  | empty
  | one (set : CharSet)
  | look (place : Place)
  | seq (first second : Regex)
  | alt (left right : Regex)
  | loop (body : Regex) (least : Nat) (most : Option Nat) (greedy : Bool)

namespace Regex

def seqAll : List Regex → Regex
  | [] => .empty
  | [last] => last
  | first :: rest => .seq first (seqAll rest)

def altAll : List Regex → Regex
  | [] => .empty
  | [last] => last
  | first :: rest => .alt first (altAll rest)

end Regex

structure Flags where
  anyCase : Bool := false
  multiLine : Bool := false
  dotAll : Bool := false
  swapGreed : Bool := false
  unicode : Bool := true
  wideLines : Bool := false
  spaced : Bool := false
  deriving DecidableEq, Repr

inductive Flag
  | anyCase
  | multiLine
  | dotAll
  | swapGreed
  | unicode
  | wideLines
  | spaced
  deriving DecidableEq, Repr

def Flag.ofChar? : Char → Option Flag
  | 'i' => some .anyCase
  | 'm' => some .multiLine
  | 's' => some .dotAll
  | 'U' => some .swapGreed
  | 'u' => some .unicode
  | 'R' => some .wideLines
  | 'x' => some .spaced
  | _ => none

def Flags.set (flags : Flags) (value : Bool) : Flag → Flags
  | .anyCase => { flags with anyCase := value }
  | .multiLine => { flags with multiLine := value }
  | .dotAll => { flags with dotAll := value }
  | .swapGreed => { flags with swapGreed := value }
  | .unicode => { flags with unicode := value }
  | .wideLines => { flags with wideLines := value }
  | .spaced => { flags with spaced := value }

end RepositoryAccess.Pattern
