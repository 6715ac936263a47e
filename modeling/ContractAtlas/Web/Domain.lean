import ContractAtlas.Text.Composition
import ContractAtlas.Web.Domain.Direction
import ContractAtlas.Web.Domain.Joining
import ContractAtlas.Web.Domain.Mapping
import ContractAtlas.Web.Domain.Punycode

/-!
# Domains

A domain is a list of labels with full stops between them. However it is written, it has one form in
ASCII: its characters are mapped and composed, and a label that then holds other characters is
encoded. A label that is encoded already has to be the code of a label that the mapping would leave
as it is.
-/

namespace ContractAtlas.Web.Domain

open Text

/-- What an encoded label starts with. -/
def encodedMark : List Char := "xn--".toList

/-- The greatest length of a label with other characters than those of ASCII. -/
def labelLimit : Nat := 1000

/-- The greatest length of what follows the start of an encoded label. -/
def encodedLimit : Nat := 2000

/-- A label: the characters that it shows, and how it is written in ASCII. -/
structure Label where
  shown : List Char
  written : List Char
deriving DecidableEq, Repr

/-- Whether a label with other characters than those of ASCII may be shown. -/
def mayShow (label : List Char) : Bool :=
  !label.head?.any isMark && keepsJoiners [] label && label.length <= labelLimit

/-- The label that the code after the start of an encoded label stands for. -/
def decodeLabel? (code : List Char) : Option (List Char) := do
  if code.isEmpty || code.getLast? = some '-' || encodedLimit < code.length then none
  else
    let label <- Punycode.decode? code
    if label.all standsForItself && composed label = label && mayShow label then some label
    else none

/-- The label that mapped and composed characters write. -/
def readLabel? (characters : List Char) : Option Label :=
  let isAscii := characters.all Punycode.isAscii
  if encodedMark.isPrefixOf characters then
    if isAscii then
      (decodeLabel? (characters.drop encodedMark.length)).map fun label => ⟨label, characters⟩
    else none
  else if isAscii then some ⟨characters, characters⟩
  else if mayShow characters then some ⟨characters, encodedMark ++ Punycode.encode characters⟩
  else none

/-- The labels of a domain, none if a character, a label or the directions of the labels are not
allowed. The forbidden characters are those that a domain may not hold even though they stand for
themselves. -/
def labels? (isForbidden : Char -> Bool) (characters : List Char) : Option (List Label) := do
  let mapped := composed (<- characters.mapM mapped?).flatten
  if mapped.any isForbidden then none
  else
    let labels <- (splitAllChars '.' mapped).mapM readLabel?
    if keepsDirections (labels.map Label.shown) then some labels else none

/-- The form of a domain in ASCII. -/
def toAscii? (isForbidden : Char -> Bool) (characters : List Char) : Option (List Char) :=
  (labels? isForbidden characters).map fun labels =>
    ['.'].intercalate (labels.map Label.written)

end ContractAtlas.Web.Domain
