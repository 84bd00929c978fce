import LiterateLinks.Text.Pieces
import LiterateLinks.Url.Composition
import LiterateLinks.Url.Direction
import LiterateLinks.Url.Folding
import LiterateLinks.Url.Joining
import LiterateLinks.Url.Punycode

/-!
# Labels of domain names

The parts of a domain name between its dots.  A label is read in its normal form, in which every
character is taken for what it stands for; one that starts with `xn--` spells another label in ASCII
letters.  `areLabels` says whether labels can make up a name together.
-/

namespace LiterateLinks

namespace Url

/-- The normal form of a text: every character is taken for what it stands for, and letters and
marks are put together. -/
def normal? (text : List Char) : Option (List Char) :=
  (text.mapM standsFor).map fun parts => composed parts.flatten

/-- The most characters that spell a label. -/
def longestSpelling : Nat := 2000

/-- The most characters of a label that are not all in ASCII. -/
def longestLabel : Nat := 1000

/-- Whether all characters are in ASCII. -/
def isAscii (text : List Char) : Bool :=
  text.all (·.toNat < 0x80)

/-- The label that a label in normal form stands for.  A spelling must be in ASCII, must have a
character to add at its end, and must spell a label in normal form. -/
def spelled? : List Char → Option (List Char)
  | 'x' :: 'n' :: '-' :: '-' :: rest =>
    if isAscii rest && rest.length ≤ longestSpelling && rest.getLast?.any (· != '-') then
      (Punycode.decode rest).filter fun label => normal? label == some label
    else none
  | label => some label

/-- Whether a label is in order by itself. -/
def isLabel (label : List Char) : Bool :=
  !label.head?.any isMark && joinersFit [] label &&
    (isAscii label || label.length ≤ longestLabel)

/-- Whether labels can make up a name: each is in order, and if there is text written from right to
left among them, each keeps to one direction. -/
def areLabels (labels : List (List Char)) : Bool :=
  labels.all isLabel && (!labels.any hasRightToLeft || labels.all runsWell)

/-- Whether a name in normal form is made of labels that are in order. -/
def isName (name : List Char) : Bool :=
  ((Text.pieces '.' name).mapM spelled?).any areLabels

end Url

end LiterateLinks
