import Recipients.Domain.Label
import Recipients.Domain.Mapping
import Recipients.Domain.Punycode

/-
  A domain in Unicode and in ASCII (UTS #46). Both directions go through the same list of readable
  labels: the domain is mapped and normalized, encoded labels are decoded and have to be in mapped
  form already, and the labels have to keep the rules for labels.
-/

namespace Recipients.Domain

/-- What starts an encoded label. -/
def encodedMark : Text := ['x', 'n', '-', '-']

/-- The mapped form of one character; `none` for a disallowed one. -/
def mapChar (c : Char) : Option Text :=
  match Unicode.mapped? replacements c with
  | some t => some t
  | none => if ignored.contains c then some [] else if valid.contains c then some [c] else none

/-- The mapped and normalized form of a text without disallowed characters. -/
def mapText (t : Text) : Option Text :=
  (t.mapM mapChar).map fun parts => Unicode.normalize parts.flatten

/-- A text in mapped form already. -/
def isMapped (t : Text) : Bool := t.all valid.contains && Unicode.normalize t == t

/-- The readable form of a mapped label. What an encoded label stands for is in mapped form and
    not ASCII alone. -/
def decodeLabel (label : Text) : Option Text :=
  match Text.afterPrefix? encodedMark label with
  | none => some label
  | some encoded =>
    if !encoded.isAscii || Punycode.decodeLimit < encoded.length then none
    else (Punycode.decode encoded).filter fun t => !t.isAscii && isMapped t

/-- The labels of a domain in readable form, if it is a domain. -/
def labels (domain : Text) : Option (List Text) :=
  match mapText domain with
  | none => none
  | some mapped =>
    ((Text.splitWhen (· == '.') mapped).mapM decodeLabel).filter fun ls =>
      ls.all (fun l => l.isAscii || labelFits l) &&
      (!(ls.any fun l => l.any isRightward) || ls.all directionFits)

/-- The ASCII form of a readable label. -/
def encodeLabel (label : Text) : Option Text :=
  if label.isAscii then some label
  else if Punycode.encodeLimit < label.length then none
  else some (encodedMark ++ Punycode.encode label)

/-- Ways from a domain in any form to its two forms. -/
structure Converter where
  toAscii : Text → Option Text
  toReadable : Text → Option Text

def asciiForm (domain : Text) : Option Text :=
  ((labels domain).bind fun ls => ls.mapM encodeLabel).map (Text.join ['.'])

def readableForm (domain : Text) : Option Text := (labels domain).map (Text.join ['.'])

def Converter.standard : Converter := ⟨asciiForm, readableForm⟩

end Recipients.Domain
