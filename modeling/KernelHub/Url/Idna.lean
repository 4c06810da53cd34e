import KernelHub.Url.Idna.Direction
import KernelHub.Url.Idna.Joining
import KernelHub.Url.Idna.Mapping
import KernelHub.Url.Punycode

/-
Domains in any script. The characters of a domain are mapped and composed; each label is
then checked, and a label that is not ASCII is written in its ASCII form. A label that
comes in its ASCII form has to stand for one that needed no mapping.
-/

namespace KernelHub.Url.Idna

/-- How the ASCII form of a label starts. -/
def mark : List Char := "xn--".toList

/-- The longest text of a label that is not ASCII, and the longest ASCII form of one,
without its start. -/
def longestText : Nat := 1000
def longestForm : Nat := 2000

def isAscii (cs : List Char) : Bool := cs.all fun c => c.toNat < 128

/-- The text that the ASCII form of a label stands for. -/
def decoded? (label : List Char) : Option (List Char) := do
  let form := label.drop mark.length
  let cs ← if form.length ≤ longestForm then Punycode.decode? form else none
  if isAscii cs then none
  else if cs.all isKept && Composition.compose cs = cs then some cs
  else none

/-- The text of a label, which is mapped and composed, if it may be a label. -/
def text? (label : List Char) : Option (List Char) := do
  let cs ← if mark.isPrefixOf label then decoded? label else some label
  if isAscii cs || (cs.length ≤ longestText && !cs.head?.any isMark && joinersFit cs) then some cs
  else none

/-- The labels of a domain, as texts and in their ASCII forms. -/
def labels? (domain : List Char) : Option (List (List Char × List Char)) := do
  let mapped ← mapAll? domain
  ((Composition.compose mapped).splitOn '.').mapM fun label => do
    let cs ← text? label
    return (cs, if isAscii label then label else mark ++ Punycode.encode label)

/-- The ASCII form of a domain. -/
def ascii? (domain : List Char) : Option (List Char) := do
  let ls ← labels? domain
  if directionsFit (ls.map (·.1)) then some (List.intercalate ['.'] (ls.map (·.2))) else none

end KernelHub.Url.Idna
