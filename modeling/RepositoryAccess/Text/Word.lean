import RepositoryAccess.Text.Category
import RepositoryAccess.Text.Trait

namespace RepositoryAccess.Text

def isAsciiWord (c : Char) : Bool := c.isAlphanum || c == '_'

-- For the first 128 code points the answer needs no table.
def isWord (c : Char) : Bool :=
  if c.toNat < 128 then isAsciiWord c
  else Trait.alphabetic.holds c || inCategory "M" c || inCategory "Nd" c || inCategory "Pc" c ||
    Trait.joinControl.holds c

def isDecimalDigit (c : Char) : Bool := if c.toNat < 128 then c.isDigit else inCategory "Nd" c

end RepositoryAccess.Text
