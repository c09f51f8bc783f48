import XmlSupport.Text.Composed
import XmlSupport.Text.Mark
import XmlSupport.Uri.Label.Admitted
import XmlSupport.Uri.Label.Direction
import XmlSupport.Uri.Label.Joiner
import XmlSupport.Uri.Punycode

/-!
# Labels of domain names

A name is a list of labels between dots. A label with the mark of an ASCII form
stands for other characters, and has to stand for a label that is written in
the one way its form was made from.
-/

namespace XmlSupport.Uri.Label

/-- Whether a label of other characters may have an ASCII form. -/
def isValid (points : List Nat) : Bool :=
  points.all isAdmitted && Text.isComposed points
    && ! (points.head?.map Text.isMark).getD false
    && joinersFit (Text.markClass · = 9) [] points

def asciiMark : List Char := ['x', 'n', '-', '-']

/-- The characters a label stands for. -/
def points? (label : List Char) : Option (List Nat) :=
  match label with
  | 'x' :: 'n' :: '-' :: '-' :: form =>
    (Punycode.decode? form).filter fun points =>
      isValid points && points.take 4 != asciiMark.map Char.toNat
  | _ => some (label.map Char.toNat)

/-- In a name with characters written from right to left every label shows its direction. -/
def fitTogether (labels : List (List Nat)) : Bool :=
  ! labels.any (·.any isRightToLeft) || labels.all keepsDirection

def areValid (labels : List (List Char)) : Bool :=
  match labels.mapM points? with
  | none => false
  | some labels => fitTogether labels

end XmlSupport.Uri.Label
