import XmlSupport.Indent.Scan

/-!
# Lines as markup

A line as the sequence of texts and tags that it is made of. Which characters
names and texts may hold depends on what is asked of the line: a line that is
looked at for open braces too may not hold any in its texts.
-/

namespace XmlSupport.Markup

/-- Attributes are kept as written, with the blank in front of them. -/
inductive Token where
  | text (content : List Char)
  | openTag (name attributes : List Char)
  | closingTag (name : List Char)
  | emptyTag (name attributes : List Char)
  deriving DecidableEq, Repr

namespace Token

def render : Token → List Char
  | .text content => content
  | .openTag name attributes => '<' :: (name ++ attributes ++ ['>'])
  | .closingTag name => '<' :: '/' :: (name ++ ['>'])
  | .emptyTag name attributes => '<' :: (name ++ attributes ++ ['/', '>'])

def isTag : Token → Bool
  | .text _ => false
  | _ => true

end Token

def render (tokens : List Token) : List Char := tokens.flatMap Token.render

/-- Characters that are kept out of names, and out of texts and attributes,
beside those that begin and end tags. -/
structure Reserved where
  inNames : List Char
  inTexts : List Char
  deriving DecidableEq, Repr

namespace Reserved

def none : Reserved := ⟨[], []⟩

/-- What has a meaning of its own to the line rules. -/
def byLineRules : Reserved := ⟨['?', '!', '\x7b'], ['\x7b']⟩

def IsName (r : Reserved) (cs : List Char) : Prop :=
  cs ≠ [] ∧ ∀ c ∈ cs, Text.isBlank c = false ∧ c ∉ ['<', '>', '/'] ∧ c ∉ r.inNames

def AreAttributes (r : Reserved) (cs : List Char) : Prop :=
  (∀ c ∈ cs.head?, Text.isBlank c = true) ∧ ∀ c ∈ cs, c ∉ ['<', '>'] ∧ c ∉ r.inTexts

def Admits (r : Reserved) : Token → Prop
  | .text content => ∀ c ∈ content, c ≠ '<' ∧ c ∉ r.inTexts
  | .openTag name attributes =>
    r.IsName name ∧ r.AreAttributes attributes ∧ attributes.getLast? ≠ some '/'
  | .closingTag name => r.IsName name
  | .emptyTag name attributes => r.IsName name ∧ r.AreAttributes attributes

end Reserved

/-- Names that the line rules know, up to a letter, a digit or an underscore. -/
def IsPlainName (name : List Char) : Prop :=
  (∀ c ∈ name, Indent.isNameChar c = true) ∧ name.getLast?.any Indent.isWordChar = true

/-- An open tag with a plain name that no later tag of the line closes. -/
def LeavesOpen (tokens : List Token) : Prop :=
  ∃ front name attributes back,
    tokens = front ++ .openTag name attributes :: back ∧ IsPlainName name ∧
      .closingTag name ∉ back

def lastTag? (tokens : List Token) : Option Token := (tokens.filter Token.isTag).getLast?

/-- What a whole document, or a part of one, is made of. -/
inductive Tree where
  | text (content : List Char)
  | empty (name attributes : List Char)
  | element (name attributes : List Char) (children : List Tree)

mutual

def Tree.tokens : Tree → List Token
  | .text content => [.text content]
  | .empty name attributes => [.emptyTag name attributes]
  | .element name attributes children =>
    .openTag name attributes :: (forestTokens children ++ [.closingTag name])

def forestTokens : List Tree → List Token
  | [] => []
  | t :: rest => t.tokens ++ forestTokens rest

end

end XmlSupport.Markup
