import XmlSupport.Indent.Configuration
import XmlSupport.Indent.Scan
import XmlSupport.Proofs.Pattern.Sequence

/-!
# How the published patterns are read

The parts of the patterns of the standard configuration, in the order in which
they are tried, and that reading the published texts gives just these parts. No
class of these patterns tells a character beyond the basic plane from the two
code units that an editor stores for it, so they are searched for character by
character.
-/

namespace XmlSupport.Indent

open Pattern Pattern.Node

/-- `[-_\.A-Za-z0-9]` -/
def nameClass : CharClass :=
  ⟨false, [.one '-', .one '_', .one '.', .range 'A' 'Z', .range 'a' 'z', .range '0' '9']⟩

/-- `\s` -/
def blankClass : CharClass := .of .blank

/-- `<\/[-_\.A-Za-z0-9]+\b[^>]*>` -/
def closingTagNode : Node :=
  behindText ['<', '/']
    [.one nameClass, .many nameClass, .wordBoundary, .many (.allBut ['>']), literal '>']

def decreaseNode : Node :=
  sequence [.start, .many blankClass, .group 1 (.either closingTagNode
    (.either (behindText "-->".toList []) (behindText ['\x7d'] [])))]

/-- `(?!\?|[^>]*\/>)` -/
def notSelfClosing : Node :=
  .ahead false (.either (behindText ['?'] [])
    (sequence [.many (.allBut ['>']), literal '/', literal '>']))

/-- `(?=\s|>)` -/
def nameEnd : Node := .ahead true (.either (sequence [.one blankClass]) (behindText ['>'] []))

/-- `(?!.*<\/\1>)` -/
def notClosedBehind : Node :=
  .ahead false (sequence [.many .dot, literal '<', literal '/', .reference 1, literal '>'])

/-- `<(?!\?|[^>]*\/>)([-_\.A-Za-z0-9]+)(?=\s|>)\b[^>]*>(?!.*<\/\1>)` -/
def openTagNode : Node :=
  behindText ['<']
    [notSelfClosing, .group 1 (sequence [.one nameClass, .many nameClass]), nameEnd, .wordBoundary,
      .many (.allBut ['>']), literal '>', notClosedBehind]

/-- `<!--(?!.*-->)` -/
def openCommentNode : Node :=
  behindText "<!--".toList [.ahead false (.both (.many .dot) (behindText "-->".toList []))]

/-- An open brace, behind which neither a closing one nor a quote stands. -/
def openBraceNode : Node := behindText ['\x7b'] [.many (.allBut ['\x7d', '"', '\'']), .finish]

def increaseNode : Node := .either openTagNode (.either openCommentNode openBraceNode)

/-- `[_:\w]` -/
def qualifiedStartClass : CharClass := ⟨false, [.one '_', .one ':', .word]⟩

/-- `[_:\w-.\d]`, in which the hyphen stands for itself -/
def qualifiedClass : CharClass := ⟨false, [.one '_', .one ':', .word, .one '-', .one '.', .digit]⟩

/-- `[\w\d]` -/
def wordOrDigitClass : CharClass := ⟨false, [.word, .digit]⟩

/-- A tag at the end of a text, with a name of the two classes:
`<([..][..]*)([^/>]*(?!/)>)[^<]*$` -/
def lastTagNode (first more : CharClass) : Node :=
  behindText ['<']
    [.group 1 (sequence [.one first, .many more]),
      .group 2 (sequence
        [.many (.allBut ['/', '>']), .ahead false (behindText ['/'] []), literal '>']),
      .many (.allBut ['<']), .finish]

/-- `^<\/([_:\w][_:\w-.\d]*)\s*>` -/
def startingTagNode : Node :=
  .both .start (behindText ['<', '/']
    [.group 1 (sequence [.one qualifiedStartClass, .many qualifiedClass]), .many blankClass,
      literal '>'])

theorem decreasePattern_node? : Configuration.decreasePattern.node? = some decreaseNode := by rfl

theorem increasePattern_node? : Configuration.increasePattern.node? = some increaseNode := by rfl

theorem betweenTags_before_node? :
    Configuration.betweenTags.before.node? =
      some (lastTagNode qualifiedStartClass qualifiedClass) := by rfl

theorem behindTag_before_node? :
    Configuration.behindTag.before.node? = some (lastTagNode (.of .word) wordOrDigitClass) := by rfl

/-- The closing tag that has to follow between two tags. -/
def closingTagAfter : Pattern := .ignoringCase "^<\\/([_:\\w][_:\\w-.\\d]*)\\s*>"

theorem betweenTags_after : Configuration.betweenTags.after = some closingTagAfter := rfl

theorem closingTagAfter_node? : closingTagAfter.node? = some startingTagNode := by rfl

theorem isWordChar_eq_isWord : isWordChar = Member.isWord := rfl

theorem admits_blankClass {c : Char} : blankClass.admits false c = Text.isBlank c :=
  CharClass.admits_of

theorem admits_wordClass {c : Char} : (CharClass.of .word).admits false c = isWordChar c :=
  CharClass.admits_of

theorem admits_nameClass {c : Char} : nameClass.admits false c = isNameChar c := by
  rw [nameClass, CharClass.admits_eq_any, Bool.eq_iff_iff]
  simp only [List.any_cons, List.any_nil, Member.holds, Bool.or_false, Bool.or_eq_true, isNameChar,
    isWordChar, isAsciiLetter, isAsciiDigit]
  grind

theorem admits_qualifiedStartClass {c : Char} :
    qualifiedStartClass.admits false c = isQualifiedStart c := by
  rw [qualifiedStartClass, CharClass.admits_eq_any, Bool.eq_iff_iff]
  simp only [List.any_cons, List.any_nil, Member.holds, Bool.or_false, Bool.or_eq_true,
    isQualifiedStart, isWordChar_eq_isWord, Member.isWord]
  grind

theorem admits_qualifiedClass {c : Char} :
    qualifiedClass.admits false c = isQualifiedChar c := by
  rw [qualifiedClass, CharClass.admits_eq_any, Bool.eq_iff_iff]
  simp only [List.any_cons, List.any_nil, Member.holds, Bool.or_false, Bool.or_eq_true,
    isQualifiedChar, isNameChar, isWordChar_eq_isWord, Member.isWord]
  grind

/-- A digit is a word character already. -/
theorem admits_wordOrDigitClass {c : Char} :
    wordOrDigitClass.admits false c = isWordChar c := by
  rw [wordOrDigitClass, CharClass.admits_eq_any, Bool.eq_iff_iff]
  simp only [List.any_cons, List.any_nil, Member.holds, Bool.or_false, Bool.or_eq_true,
    isWordChar_eq_isWord, Member.isWord]
  grind

end XmlSupport.Indent
