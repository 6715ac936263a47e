import ContractAtlas.Web.Percent

/-!
# Forms

The fields of a form, or of the query of a URL: pairs joined by an equals sign and separated by
ampersands, with blanks written as plus signs and other bytes percent encoded.
-/

namespace ContractAtlas.Web.Form

open Text

/-- Whether a character stays as it is in a form. -/
def keeps (character : Char) : Bool :=
  isAlphanumeric character || ['*', '-', '.', '_'].contains character

/-- A name or value as it is written in a form. -/
def encodePart (text : String) : List Char :=
  (percentEncode (fun character => keeps character || character = ' ') text.toList).map
    fun character => if character = ' ' then '+' else character

/-- A field as it is written in a form. -/
def encodeField (name value : String) : String :=
  String.ofList (encodePart name ++ ['='] ++ encodePart value)

/-- The text of a written name or value. -/
def decodePart (written : String) : String :=
  textOfBytes (percentDecode (written.toList.map fun character =>
    if character = '+' then ' ' else character))

/-- The fields of a written form, in order. A field without an equals sign has an empty value, and
nothing between two ampersands is no field. -/
def fields (written : String) : List (String × String) :=
  ((splitAll '&' written).filter fun field => !field.isEmpty).map fun field =>
    let (name, value) := splitOnce '=' field
    (decodePart name, decodePart (value.getD ""))

end ContractAtlas.Web.Form
