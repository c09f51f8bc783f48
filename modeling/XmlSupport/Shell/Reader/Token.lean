import XmlSupport.Shell.Command

/-!
# Tokens of scripts

Blanks and comments separate tokens, and a backslash in front of a line end
joins two lines. A text that cannot be read is a fault at the line of the token
that did not fit.
-/

namespace XmlSupport.Shell

structure SyntaxFault where
  line : Nat
  message : Text

/-- Characters that end a word. -/
def isMeta (c : Char) : Bool := "|&;<>() \t\n".toList.contains c

def backquote : Char := '\x60'

/-- Stands for a line that was taken out of the script in front of its end. -/
def removedLine : Char := '\u0100'

def countLines (rest : Text) : Nat := rest.count '\n' + rest.count removedLine

/-- The line at which a rest of a script begins, from the number of all lines. -/
def lineAt (lines : Nat) (rest : Text) : Nat := lines - countLines rest

def lineCount (script : Text) : Nat := countLines script + 1

def dropBlanks : Text → Text
  | ' ' :: rest => dropBlanks rest
  | '\t' :: rest => dropBlanks rest
  | '\\' :: '\n' :: rest => dropBlanks rest
  | c :: rest => if c = removedLine then dropBlanks rest else c :: rest
  | [] => []

/-- Behind blanks and a comment. -/
def dropGap (rest : Text) : Text :=
  match dropBlanks rest with
  | '#' :: more => more.dropWhile (· != '\n')
  | rest => rest

/-- Behind blanks, comments and line ends. -/
def dropLines : Nat → Text → Text
  | 0, rest => rest
  | fuel + 1, rest =>
    match dropGap rest with
    | '\n' :: more => dropLines fuel more
    | rest => rest

def skipLines (rest : Text) : Text := dropLines (rest.length + 1) rest

inductive Token where
  | endOfText
  | lineEnd
  | semicolon
  | branchEnd
  | ampersand
  | and
  | or
  | bar
  | opening
  | closing
  | redirection
  | word
  deriving DecidableEq, Repr

/-- The token in front of a text that begins with no blank. -/
def tokenOf (rest : Text) : Token :=
  match rest with
  | [] => .endOfText
  | '\n' :: _ => .lineEnd
  | ';' :: ';' :: _ => .branchEnd
  | ';' :: _ => .semicolon
  | '&' :: '&' :: _ => .and
  | '&' :: _ => .ampersand
  | '|' :: '|' :: _ => .or
  | '|' :: _ => .bar
  | '(' :: _ => .opening
  | ')' :: _ => .closing
  | '<' :: _ => .redirection
  | '>' :: _ => .redirection
  | d :: '<' :: _ => if d.isDigit then .redirection else .word
  | d :: '>' :: _ => if d.isDigit then .redirection else .word
  | _ => .word

def Token.text : Token → Text
  | .endOfText => []
  | .lineEnd => ['\n']
  | .semicolon => [';']
  | .branchEnd => [';', ';']
  | .ampersand => ['&']
  | .and => ['&', '&']
  | .or => ['|', '|']
  | .bar => ['|']
  | .opening => ['(']
  | .closing => [')']
  | .redirection => []
  | .word => []

/-- The characters ahead that could make a word of the shell's own. -/
def peekWord (rest : Text) : String := String.ofList (rest.takeWhile fun c => !isMeta c)

def reservedWords : List String :=
  ["!", "\x7b", "\x7d", "case", "do", "done", "elif", "else", "esac", "fi", "for", "if", "in",
   "then", "until", "while"]

/-- Words that end a list of commands. -/
def closers : List String := ["\x7d", "do", "done", "elif", "else", "esac", "fi", "then"]

/-- Whether a list of commands ends here. -/
def endsList (rest : Text) : Bool :=
  match tokenOf rest with
  | .endOfText => true
  | .branchEnd => true
  | .closing => true
  | .word => closers.contains (peekWord rest)
  | _ => false

def inQuotationMarks (text : Text) : Text := '"' :: text ++ ['"']

/-- How a message names the token ahead. -/
def tokenName (rest : Text) : Text :=
  match tokenOf rest with
  | .endOfText => say "end of file"
  | .lineEnd => say "newline"
  | .redirection => say "redirection"
  | .word =>
    let word := peekWord rest
    if reservedWords.contains word then inQuotationMarks (say word) else say "word"
  | token => inQuotationMarks token.text

/-- Behind the token ahead, as far as its lines count. -/
def dropToken (rest : Text) : Text :=
  match tokenOf rest with
  | .word => rest.drop (peekWord rest).length
  | token => rest.drop token.text.length

def faultAt (lines : Nat) (rest : Text) (message : Text) : SyntaxFault :=
  ⟨lineAt lines rest, message⟩

/-- The token ahead does not fit; another one may have been expected. -/
def unexpected (lines : Nat) (rest : Text) (expected : String) : SyntaxFault :=
  let wanted := if expected.isEmpty then [] else say (" (expecting " ++ expected ++ ")")
  faultAt lines (dropToken rest) (tokenName rest ++ say " unexpected" ++ wanted)

/-- Behind one of the shell's own words, which has to be ahead. -/
def expectWord (lines : Nat) (word : String) (rest : Text) : Except SyntaxFault Text :=
  let rest := skipLines rest
  if tokenOf rest = .word && peekWord rest = word then .ok (rest.drop word.length)
  else .error (unexpected lines rest ("\"" ++ word ++ "\""))

end XmlSupport.Shell
