import RepositoryAccess.Text.Category
import RepositoryAccess.Text.Script
import RepositoryAccess.Text.Trait

namespace RepositoryAccess.Pattern
open RepositoryAccess.Text

-- `isc` keeps its prefix, since `c` alone means something else.
def looseName (name : String) : List Char :=
  let stripped := match name.toList with
    | i :: s :: rest => if i.toLower == 'i' && s.toLower == 's' then rest else name.toList
    | short => short
  let bare := (stripped.filter fun c => !(c == ' ' || c == '_' || c == '-') && c.toNat < 128).map Char.toLower
  if bare == ['c'] && stripped.length != name.length then ['i', 's', 'c'] else bare

def namedBy (wanted : List Char) (names : List String) : Bool :=
  names.any fun name => looseName name == wanted

def categoryNamed (wanted : List Char) : Option (Char → Bool) :=
  if wanted == "any".toList then some fun _ => true
  else if wanted == "assigned".toList then some fun c => !inCategory "Cn" c
  else if wanted == "ascii".toList then some fun c => c.toNat < 128
  else (categoryNames.find? fun (code, names) => namedBy wanted (code :: names)).map
    fun (code, _) => inCategory code

def scriptNamed (wanted : List Char) : Option String :=
  (scriptNames.find? fun (code, names) => code != "Zzzz" && namedBy wanted (code :: names)).map (·.1)

def traitNamed (wanted : List Char) : Option (Char → Bool) :=
  (Trait.all.find? fun trait => namedBy wanted trait.names).map (·.holds)

-- Three abbreviations stand for categories though they also abbreviate properties.
def meansCategory (wanted : List Char) : Bool :=
  wanted == ['c', 'f'] || wanted == ['s', 'c'] || wanted == ['l', 'c']

def propertyNamed (name : String) : Option (Char → Bool) :=
  let wanted := looseName name
  let trait := if meansCategory wanted then none else traitNamed wanted
  trait <|> categoryNamed wanted <|> (scriptNamed wanted).map fun code c => script c == code

def propertyValued (family value : String) : Option (Char → Bool) :=
  let wanted := looseName value
  let family := looseName family
  if namedBy family ["General_Category", "gc"] then categoryNamed wanted
  else if namedBy family ["Script", "sc"] then (scriptNamed wanted).map fun code c => script c == code
  else if namedBy family ["Script_Extensions", "scx"] then (scriptNamed wanted).map usedWithScript
  else none

end RepositoryAccess.Pattern
