import XmlSupport.Text.Blank

/-!
# Looking for marks in a line

The indentation rules look at a line as the text behind each of its positions.
Names of tags are ASCII: a letter of another alphabet ends a name.
-/

namespace XmlSupport.Indent

def isAsciiLetter (c : Char) : Bool := ('a' ≤ c && c ≤ 'z') || ('A' ≤ c && c ≤ 'Z')

def isAsciiDigit (c : Char) : Bool := '0' ≤ c && c ≤ '9'

def isWordChar (c : Char) : Bool := isAsciiLetter c || isAsciiDigit c || c = '_'

/-- The characters of a tag name that the line rules know. -/
def isNameChar (c : Char) : Bool := isWordChar c || c = '-' || c = '.'

/-- A name before or behind the cursor may also hold a colon, and begin with one. -/
def isQualifiedStart (c : Char) : Bool := isWordChar c || c = ':'

def isQualifiedChar (c : Char) : Bool := isNameChar c || c = ':'

/-- Whether the text behind some position satisfies `p`. -/
def anywhere (p : List Char → Bool) : List Char → Bool
  | [] => p []
  | c :: rest => p (c :: rest) || anywhere p rest

theorem anywhere_eq_true_iff {p : List Char → Bool} {cs : List Char} :
    anywhere p cs = true ↔ ∃ front back, cs = front ++ back ∧ p back = true := by
  induction cs with
  | nil =>
    constructor
    · exact fun h => ⟨[], [], rfl, h⟩
    · rintro ⟨front, back, h, hp⟩
      obtain ⟨rfl, rfl⟩ := List.append_eq_nil_iff.1 h.symm
      exact hp
  | cons c rest ih =>
    simp only [anywhere, Bool.or_eq_true, ih]
    constructor
    · rintro (h | ⟨front, back, h, hp⟩)
      · exact ⟨[], c :: rest, rfl, h⟩
      · exact ⟨c :: front, back, by rw [h]; rfl, hp⟩
    · rintro ⟨front, back, h, hp⟩
      cases front with
      | nil => exact Or.inl (by rw [h]; exact hp)
      | cons d front =>
        exact Or.inr ⟨front, back, (List.cons.inj h).2, hp⟩

/-- Whether `part` stands somewhere in a text. -/
def occurs (part : List Char) : List Char → Bool := anywhere part.isPrefixOf

/-- What precedes and what follows the first `mark`. -/
def cut? (mark : Char) : List Char → Option (List Char × List Char)
  | [] => none
  | c :: rest =>
    if c = mark then some ([], rest)
    else (cut? mark rest).map fun (front, back) => (c :: front, back)

/-- The text behind `lead`, for a text that begins with it. -/
def after? : List Char → List Char → Option (List Char)
  | [], cs => some cs
  | _ :: _, [] => none
  | l :: lead, c :: cs => if c = l then after? lead cs else none

end XmlSupport.Indent
