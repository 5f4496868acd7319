import LinkCharset.Error
import LinkCharset.Idn.Bidi
import LinkCharset.Idn.Joining
import LinkCharset.Idn.Mapping
import LinkCharset.Idn.Normalization
import LinkCharset.Idn.Punycode

/-! # International host names

A host name is mapped, composed and split into labels. Labels in their ASCII form are decoded, every
label is checked, and the name is written again in ASCII or as it is. -/
namespace LinkCharset.Idn

/-- What the ASCII form of a label starts with. -/
def asciiMark : List Char := "xn--".toList

def mapAll? (host : List Char) : Option (List Char) := (host.mapM mapChar?).map List.flatten

/-- The parts between full stops, of which there is always one. -/
def splitLabels : List Char → List (List Char)
  | [] => [[]]
  | c :: rest =>
    if c = '.' then [] :: splitLabels rest
    else
      match splitLabels rest with
      | [] => [[c]]
      | label :: labels => (c :: label) :: labels

def joinLabels (labels : List (List Char)) : List Char := List.intercalate ['.'] labels

/-- What every label must be, apart from the rule for two directions. -/
def isValidLabel (label : List Char) : Bool :=
  label.all isStable && Normalization.nfc label == label && !label.head?.any Normalization.isMark &&
    hasValidJoiners label

/-- The label that an ASCII form stands for. It has to hold something that ASCII does not. -/
def decodeLabel? (label : List Char) : Option (List Char) :=
  if asciiMark.isPrefixOf label then
    match Punycode.decode? (label.drop asciiMark.length) with
    | some decoded => if decoded.all Punycode.isBasic then none else some decoded
    | none => none
  else some label

def encodeLabel (label : List Char) : List Char :=
  if label.all Punycode.isBasic then label else asciiMark ++ Punycode.encode label

/-- The labels of a host name, if it is valid. -/
def labels? (host : List Char) : Option (List (List Char)) := do
  let mapped ← mapAll? host
  let labels ← (splitLabels (Normalization.nfc mapped)).mapM decodeLabel?
  let obeysDirections := !labels.any hasRightToLeft || labels.all obeysBidiRule
  if labels.all isValidLabel && obeysDirections then some labels else none

/-- The one diagnostic of this conversion. -/
def failure : IdnError := ⟨"Errors"⟩

def convert (write : List Char → List Char) (host : String) : Except IdnError String :=
  match labels? host.toList with
  | some labels => .ok (String.ofList (joinLabels (labels.map write)))
  | none => .error failure

def toAscii (host : String) : Except IdnError String := convert encodeLabel host

def toUnicode (host : String) : Except IdnError String := convert id host

end LinkCharset.Idn
