import XmlSupport.Shell.Reader.Token

/-!
# Reading scripts

A recursive reader over the text still ahead. Scripts are read and run one line
at a time, so that a fault in a later line does not keep the earlier ones from
running.
-/

namespace XmlSupport.Shell

/-- Where the pieces of a word stand. -/
inductive Quoting where
  | bare
  /-- In the braces of an expansion outside quotes. -/
  | braces
  | quotes
  /-- In the braces of an expansion inside quotes, and in quotes of their own there. -/
  | quotedBraces (inner : Bool)
  | document
  /-- In an arithmetic expansion, with open brackets. -/
  | arithmetic (depth : Nat)
  deriving DecidableEq, Repr

namespace Quoting

def isQuoted : Quoting → Bool
  | .bare => false
  | .braces => false
  | _ => true

/-- Whether a backslash takes the meaning of a character away. -/
def escapes (quoting : Quoting) (c : Char) : Bool :=
  match quoting with
  | .bare => true
  | .braces => true
  | .quotedBraces _ => c = '\\' || c = '$' || c = backquote || c = '"' || c = '\x7d'
  | .document => c = '\\' || c = '$' || c = backquote
  | _ => c = '\\' || c = '$' || c = backquote || c = '"'

/-- What is missing when the text ends here. -/
def missing? : Quoting → Option String
  | .bare => none
  | .document => none
  | .quotes => some "Unterminated quoted string"
  | .arithmetic _ => some "Missing '))'"
  | _ => some "Missing '\x7d'"

end Quoting

def isSpecialParameter (c : Char) : Bool := "@*#?$!-".toList.contains c || c.isDigit

def fallback? (c : Char) : Option Fallback :=
  if c = '-' then some .use
  else if c = '=' then some .assign
  else if c = '+' then some .replace
  else if c = '?' then some .complain
  else none

/-- What an expansion in braces does with its parameter. -/
inductive Operation where
  | value
  | length
  | fallback (emptyToo : Bool) (fallback : Fallback)
  | trim (trim : Trim)
  | bad
  deriving DecidableEq, Repr

def readOperation (rest : Text) : Operation × Text :=
  match rest with
  | '\x7d' :: _ => (.value, rest)
  | '%' :: '%' :: rest => (.trim ⟨false, true⟩, rest)
  | '%' :: rest => (.trim ⟨false, false⟩, rest)
  | '#' :: '#' :: rest => (.trim ⟨true, true⟩, rest)
  | '#' :: rest => (.trim ⟨true, false⟩, rest)
  | ':' :: c :: more =>
    match fallback? c with
    | some f => (.fallback true f, more)
    | none => (.bad, rest)
  | c :: more =>
    match fallback? c with
    | some f => (.fallback false f, more)
    | none => (.bad, rest)
  | [] => (.bad, [])

/-- The parameter of an expansion in braces and what is done with it. -/
def readParameter (rest : Text) : Text × Operation × Text :=
  let named (rest : Text) : Text × Text :=
    match rest with
    | [] => ([], [])
    | c :: more =>
      if isLetter c then (rest.takeWhile isNamePart, rest.dropWhile isNamePart)
      else if c.isDigit then (rest.takeWhile Char.isDigit, rest.dropWhile Char.isDigit)
      else if isSpecialParameter c then ([c], more)
      else ([], rest)
  let isLength := match rest with
    | '#' :: c :: d :: _ => isNamePart c || (isSpecialParameter c && d = '\x7d')
    | _ => false
  if isLength then
    let (name, rest) := named (rest.drop 1)
    (name, if rest.head? = some '\x7d' then .length else .bad, rest)
  else
    let (name, rest) := named rest
    if name.isEmpty then (name, .bad, rest)
    else
      let (operation, rest) := readOperation rest
      (name, operation, rest)

/-- The script between backquotes, up to the closing one. -/
def readBackquoted (isQuoted : Bool) : Text → Option (Text × Text)
  | [] => none
  | '\\' :: c :: rest =>
    if c = '\n' then readBackquoted isQuoted rest
    else if c = backquote || c = '\\' || c = '$' || (isQuoted && c = '"') then
      (readBackquoted isQuoted rest).map fun (t, r) => (c :: t, r)
    else (readBackquoted isQuoted rest).map fun (t, r) => ('\\' :: c :: t, r)
  | c :: rest =>
    if c = backquote then some ([], rest)
    else (readBackquoted isQuoted rest).map fun (t, r) => (c :: t, r)

/-- The literal characters of a word, if it has no other pieces. -/
def plainText? (word : Word) : Option Text :=
  word.mapM fun p => match p with
    | .plain c => some c
    | _ => none

/-- An assignment: a name, an equals sign and a value. -/
def assignment? (word : Word) : Option (Text × Word) :=
  let name := word.takeWhile fun p => match p with
    | .plain c => isNamePart c
    | _ => false
  match plainText? name, word.drop name.length with
  | some (c :: text), .plain '=' :: value => if isLetter c then some (c :: text, value) else none
  | _, _ => none

/-- The rest of a line, quoted line ends being part of it, and what follows its end. -/
def splitLine : Option Char → Text → Text × Option Text
  | _, [] => ([], none)
  | quote, c :: rest =>
    if c = '\n' && quote.isNone then ([], some rest)
    else
      let quote := match quote with
        | some q => if c = q then none else some q
        | none => if c = '"' || c = '\'' then some c else none
      let (line, after) := splitLine quote rest
      (c :: line, after)

/-- The lines of a document up to its closing line, and the text behind that. -/
def takeDocument (closing : Text) (dropsTabs : Bool) : Nat → Text → Text × Nat × Text
  | 0, rest => ([], 0, rest)
  | _, [] => ([], 0, [])
  | fuel + 1, rest =>
    let raw := rest.takeWhile (· != '\n')
    let after := rest.drop (raw.length + 1)
    let line := if dropsTabs then raw.dropWhile (· = '\t') else raw
    if line = closing then ([], 1, after)
    else
      let (body, count, rest) := takeDocument closing dropsTabs fuel after
      (line ++ '\n' :: body, count + 1, rest)

/-- Takes a document out of the text behind the current line. -/
def cutDocument (closing : Text) (dropsTabs : Bool) (rest : Text) : Text × Text :=
  match splitLine none rest with
  | (_, none) => ([], rest)
  | (line, some after) =>
    let earlier := after.takeWhile (· = removedLine)
    let (body, count, after) :=
      takeDocument closing dropsTabs (after.length + 1) (after.drop earlier.length)
    (body, line ++ '\n' :: earlier ++ List.replicate count removedLine ++ after)

/-- The text that a word stands for when it closes a document, and whether quotes are in it. -/
def closingText (word : Word) : Text × Bool :=
  (word.filterMap fun p => match p with
    | .plain c => some c
    | .quoted c => some c
    | _ => none,
   word.any fun p => match p with
    | .plain _ => false
    | _ => true)

/-- The direction of a redirection and its usual descriptor. -/
def readDirection (rest : Text) : Direction × Nat × Text :=
  match rest with
  | '>' :: '>' :: rest => (.append, 1, rest)
  | '>' :: '&' :: rest => (.copy, 1, rest)
  | '>' :: '|' :: rest => (.replace, 1, rest)
  | '>' :: rest => (.write, 1, rest)
  | '<' :: '<' :: rest => (.document, 0, rest)
  | '<' :: '&' :: rest => (.copy, 0, rest)
  | '<' :: '>' :: rest => (.readWrite, 0, rest)
  | _ :: rest => (.read, 0, rest)
  | [] => (.read, 0, [])

mutual

/-- The pieces of a word, up to what ends it. -/
def readPieces (lines : Nat) : Nat → Quoting → Text → Except SyntaxFault (Word × Text)
  | 0, _, rest => .error (faultAt lines rest (say "too deep"))
  | _, quoting, [] =>
    match quoting.missing? with
    | some message => .error (faultAt lines [] (say message))
    | none => .ok ([], [])
  | fuel + 1, quoting, c :: rest =>
    let next (piece : Piece) (quoting : Quoting) (rest : Text) :
        Except SyntaxFault (Word × Text) := do
      let (word, rest) ← readPieces lines fuel quoting rest
      return (piece :: word, rest)
    if c = removedLine then readPieces lines fuel quoting rest
    else if c = '\\' then
      match rest with
      | [] => next (.quoted '\\') quoting []
      | d :: more =>
        if d = '\n' then readPieces lines fuel quoting more
        else if quoting.escapes d then next (.quoted d) quoting more
        else next (.quoted '\\') quoting rest
    else if c = '$' then do
      let (piece, rest) ← readDollar lines fuel quoting.isQuoted rest
      next piece quoting rest
    else if c = backquote then
      match readBackquoted quoting.isQuoted rest with
      | none => .error (faultAt lines [] (say "EOF in backquote substitution"))
      | some (script, rest) => do
        let (body, _) ← readList (lineAt lines rest) fuel true script
        next (.substitution body quoting.isQuoted) quoting rest
    else
      match quoting with
      | .bare =>
        if isMeta c then .ok ([], c :: rest) else readOutside lines fuel quoting c rest
      | .braces =>
        if c = '\x7d' then .ok ([], rest) else readOutside lines fuel quoting c rest
      | .quotes => if c = '"' then .ok ([.quoteMark], rest) else next (.quoted c) quoting rest
      | .quotedBraces inner =>
        if c = '"' then readPieces lines fuel (.quotedBraces !inner) rest
        else if c = '\x7d' && !inner then .ok ([], rest)
        else next (.quoted c) quoting rest
      | .document => next (.quoted c) quoting rest
      | .arithmetic depth =>
        if c = '"' then readPieces lines fuel quoting rest
        else if c = '(' then next (.quoted c) (.arithmetic (depth + 1)) rest
        else if c = ')' then
          if 0 < depth then next (.quoted c) (.arithmetic (depth - 1)) rest
          else if rest.head? = some ')' then .ok ([], rest.drop 1)
          else next (.quoted c) quoting rest
        else next (.quoted c) quoting rest

/-- A character outside quotes. -/
def readOutside (lines : Nat) : Nat → Quoting → Char → Text → Except SyntaxFault (Word × Text)
  | 0, _, _, rest => .error (faultAt lines rest (say "too deep"))
  | fuel + 1, quoting, c, rest => do
    if c = '\'' then
      let body := rest.takeWhile (· != '\'')
      match rest.drop body.length with
      | [] => .error (faultAt lines [] (say "Unterminated quoted string"))
      | _ :: rest =>
        let (word, rest) ← readPieces lines fuel quoting rest
        return (.quoteMark :: (body.filter (· != removedLine)).map Piece.quoted ++ word, rest)
    else if c = '"' then
      let (inside, rest) ← readPieces lines fuel .quotes rest
      let (word, rest) ← readPieces lines fuel quoting rest
      return (.quoteMark :: inside ++ word, rest)
    else
      let (word, rest) ← readPieces lines fuel quoting rest
      return (.plain c :: word, rest)

/-- What follows a dollar sign. -/
def readDollar (lines : Nat) : Nat → Bool → Text → Except SyntaxFault (Piece × Text)
  | 0, _, rest => .error (faultAt lines rest (say "too deep"))
  | fuel + 1, isQuoted, rest =>
    match rest with
    | '(' :: '(' :: more => do
      let (expression, rest) ← readPieces lines fuel (.arithmetic 0) more
      return (.arithmetic expression isQuoted, rest)
    | '(' :: more => do
      let (body, rest) ← readList lines fuel true more
      let rest := skipLines rest
      match rest with
      | ')' :: rest => return (.substitution body isQuoted, rest)
      | _ => throw (unexpected lines rest "\")\"")
    | '\x7b' :: more => do
      let (name, operation, rest) := readParameter more
      let quoting : Quoting := match operation with
        | .trim _ => .braces
        | _ => if isQuoted then .quotedBraces false else .braces
      let (word, rest) ← readPieces lines fuel quoting rest
      let piece : Piece := match operation with
        | .value => .parameter name isQuoted
        | .length => .parameterLength name isQuoted
        | .fallback emptyToo f => .parameterOr name emptyToo f word isQuoted
        | .trim t => .parameterTrimmed name t word isQuoted
        | .bad => .badExpansion
      return (piece, rest)
    | c :: more =>
      if isLetter c then
        .ok (.parameter (rest.takeWhile isNamePart) isQuoted, rest.dropWhile isNamePart)
      else if isSpecialParameter c then .ok (.parameter [c] isQuoted, more)
      else .ok (if isQuoted then .quoted '$' else .plain '$', rest)
    | [] => .ok (if isQuoted then .quoted '$' else .plain '$', [])

/-- A word, which has to be ahead. -/
def readWord (lines : Nat) : Nat → Text → Except SyntaxFault (Word × Text)
  | 0, rest => .error (faultAt lines rest (say "too deep"))
  | fuel + 1, rest =>
    let rest := dropGap rest
    if tokenOf rest = .word then readPieces lines fuel .bare rest
    else .error (unexpected lines rest "")

/-- The redirection ahead. -/
def readRedirection (lines : Nat) : Nat → Text → Except SyntaxFault (Redirection × Text)
  | 0, rest => .error (faultAt lines rest (say "too deep"))
  | fuel + 1, rest => do
    let digits := rest.takeWhile Char.isDigit
    let (direction, usual, rest) := readDirection (rest.drop digits.length)
    let descriptor := (digits.head?.map fun c => c.toNat - 48).getD usual
    if direction = .document then
      let dropsTabs := rest.head? = some '-'
      let (word, rest) ← readWord lines fuel (if dropsTabs then rest.drop 1 else rest)
      let (closing, isQuoted) := closingText word
      let (body, rest) := cutDocument closing dropsTabs rest
      if isQuoted then return (.mk descriptor direction (body.map Piece.quoted), rest)
      else
        let (pieces, _) ← readPieces (lineCount body) fuel .document body
        return (.mk descriptor direction pieces, rest)
    else
      let (target, rest) ← readWord lines fuel rest
      return (.mk descriptor direction target, rest)

def readRedirections (lines : Nat) : Nat → Text → Except SyntaxFault (List Redirection × Text)
  | 0, rest => .error (faultAt lines rest (say "too deep"))
  | fuel + 1, rest => do
    let rest := dropGap rest
    if tokenOf rest = .redirection then
      let (r, rest) ← readRedirection lines fuel rest
      let (rs, rest) ← readRedirections lines fuel rest
      return (r :: rs, rest)
    else return ([], rest)

/-- Words up to the end of a line. -/
def readWords (lines : Nat) : Nat → Text → Except SyntaxFault (List Word × Text)
  | 0, rest => .error (faultAt lines rest (say "too deep"))
  | fuel + 1, rest => do
    let rest := dropGap rest
    match tokenOf rest with
    | .word =>
      let (word, rest) ← readWord lines fuel rest
      let (words, rest) ← readWords lines fuel rest
      return (word :: words, rest)
    | .semicolon => return ([], rest.drop 1)
    | .lineEnd => return ([], rest.drop 1)
    | _ => throw (unexpected lines rest "")

/-- Commands one after the other, up to a token that ends the list. -/
def readList (lines : Nat) : Nat → Bool → Text → Except SyntaxFault (Command × Text)
  | 0, _, rest => .error (faultAt lines rest (say "too deep"))
  | fuel + 1, mayBeEmpty, rest => do
    let rest := skipLines rest
    if mayBeEmpty && endsList rest then return (.skip, rest)
    else
      let start := lineAt lines rest
      let (first, rest) ← readConnected lines fuel rest
      let rest := dropGap rest
      match tokenOf rest with
      | .semicolon =>
        let (second, rest) ← readList lines fuel true (rest.drop 1)
        return (first.followedBy second, rest)
      | .lineEnd =>
        let (second, rest) ← readList lines fuel true (rest.drop 1)
        return (first.followedBy second, rest)
      | .ampersand =>
        let (second, rest) ← readList lines fuel true (rest.drop 1)
        return ((Command.background start first).followedBy second, rest)
      | _ => return (first, rest)

/-- Pipelines joined by their success or failure. -/
def readConnected (lines : Nat) : Nat → Text → Except SyntaxFault (Command × Text)
  | 0, rest => .error (faultAt lines rest (say "too deep"))
  | fuel + 1, rest => do
    let (first, rest) ← readPipeline lines fuel rest
    readMore lines fuel first rest

def readMore (lines : Nat) : Nat → Command → Text → Except SyntaxFault (Command × Text)
  | 0, _, rest => .error (faultAt lines rest (say "too deep"))
  | fuel + 1, first, rest => do
    let rest := dropGap rest
    match tokenOf rest with
    | .and =>
      let (second, rest) ← readPipeline lines fuel (skipLines (rest.drop 2))
      readMore lines fuel (.both first second) rest
    | .or =>
      let (second, rest) ← readPipeline lines fuel (skipLines (rest.drop 2))
      readMore lines fuel (.either first second) rest
    | _ => return (first, rest)

def readPipeline (lines : Nat) : Nat → Text → Except SyntaxFault (Command × Text)
  | 0, rest => .error (faultAt lines rest (say "too deep"))
  | fuel + 1, rest => do
    let rest := dropGap rest
    if tokenOf rest = .word && peekWord rest = "!" then
      let (command, rest) ← readStages lines fuel (rest.drop 1)
      return (.negate command, rest)
    else readStages lines fuel rest

/-- The stages of a pipeline. -/
def readStages (lines : Nat) : Nat → Text → Except SyntaxFault (Command × Text)
  | 0, rest => .error (faultAt lines rest (say "too deep"))
  | fuel + 1, rest => do
    let (first, rest) ← readCommand lines fuel rest
    let rest := dropGap rest
    if tokenOf rest = .bar then
      let (second, rest) ← readStages lines fuel (skipLines (rest.drop 1))
      return (.pipe first second, rest)
    else return (first, rest)

/-- A command and the redirections behind it. -/
def readCommand (lines : Nat) : Nat → Text → Except SyntaxFault (Command × Text)
  | 0, rest => .error (faultAt lines rest (say "too deep"))
  | fuel + 1, rest => do
    let rest := dropGap rest
    let line := lineAt lines rest
    match tokenOf rest with
    | .redirection => readSimple lines fuel line [] [] [] rest
    | .opening =>
      let (body, rest) ← readList lines fuel false (rest.drop 1)
      let rest := skipLines rest
      if tokenOf rest = .closing then redirected lines fuel line (.subshell line body) (rest.drop 1)
      else throw (unexpected lines rest "\")\"")
    | .word =>
      match peekWord rest with
      | "\x7b" =>
        let (body, rest) ← readList lines fuel false (rest.drop 1)
        let rest ← expectWord lines "\x7d" rest
        redirected lines fuel line body rest
      | "if" =>
        let (body, rest) ← readIf lines fuel (rest.drop 2)
        redirected lines fuel line body rest
      | "while" =>
        let (body, rest) ← readLoop lines fuel true (rest.drop 5)
        redirected lines fuel line body rest
      | "until" =>
        let (body, rest) ← readLoop lines fuel false (rest.drop 5)
        redirected lines fuel line body rest
      | "for" =>
        let (body, rest) ← readFor lines fuel line (rest.drop 3)
        redirected lines fuel line body rest
      | "case" =>
        let (word, rest) ← readWord lines fuel (rest.drop 4)
        let rest ← expectWord lines "in" rest
        let (branches, rest) ← readBranches lines fuel rest
        redirected lines fuel line (.select line word branches) rest
      | word =>
        if reservedWords.contains word then throw (unexpected lines rest "")
        else readSimple lines fuel line [] [] [] rest
    | _ => throw (unexpected lines rest "")

def redirected (lines : Nat) : Nat → Nat → Command → Text → Except SyntaxFault (Command × Text)
  | 0, _, _, rest => .error (faultAt lines rest (say "too deep"))
  | fuel + 1, line, body, rest => do
    let (redirections, rest) ← readRedirections lines fuel rest
    return (if redirections.isEmpty then body else .redirected line body redirections, rest)

/-- A simple command: assignments, words and redirections in any order. A name and a pair of
brackets define a function instead. -/
def readSimple (lines : Nat) : Nat → Nat → List (Text × Word) → List Word → List Redirection →
    Text → Except SyntaxFault (Command × Text)
  | 0, _, _, _, _, rest => .error (faultAt lines rest (say "too deep"))
  | fuel + 1, line, assignments, words, redirections, rest => do
    let rest := dropGap rest
    match tokenOf rest with
    | .redirection =>
      let (r, rest) ← readRedirection lines fuel rest
      readSimple lines fuel line assignments words (redirections ++ [r]) rest
    | .word =>
      let (word, rest) ← readWord lines fuel rest
      match words, assignment? word with
      | [], some a => readSimple lines fuel line (assignments ++ [a]) [] redirections rest
      | _, _ => readSimple lines fuel line assignments (words ++ [word]) redirections rest
    | .opening =>
      match assignments, words, redirections with
      | [], [word], [] =>
        let rest := dropGap (rest.drop 1)
        if tokenOf rest != .closing then throw (unexpected lines rest "\")\"")
        else
          match plainText? word with
          | some name =>
            if isName name then
              let (body, rest) ← readCommand lines fuel (skipLines (rest.drop 1))
              return (.define name body, rest)
            else throw (faultAt lines rest (say "Bad function name"))
          | none => throw (faultAt lines rest (say "Bad function name"))
      | _, _, _ => throw (unexpected lines rest "")
    | _ => return (.simple line assignments words redirections, rest)

/-- A choice behind its first word. -/
def readIf (lines : Nat) : Nat → Text → Except SyntaxFault (Command × Text)
  | 0, rest => .error (faultAt lines rest (say "too deep"))
  | fuel + 1, rest => do
    let (condition, rest) ← readList lines fuel false rest
    let rest ← expectWord lines "then" rest
    let (consequence, rest) ← readList lines fuel false rest
    let rest := skipLines rest
    match if tokenOf rest = .word then peekWord rest else "" with
    | "elif" =>
      let (alternative, rest) ← readIf lines fuel (rest.drop 4)
      return (.choose condition consequence alternative, rest)
    | "else" =>
      let (alternative, rest) ← readList lines fuel false (rest.drop 4)
      let rest ← expectWord lines "fi" rest
      return (.choose condition consequence alternative, rest)
    | _ =>
      let rest ← expectWord lines "fi" rest
      return (.choose condition consequence .skip, rest)

/-- A loop behind its first word. -/
def readLoop (lines : Nat) : Nat → Bool → Text → Except SyntaxFault (Command × Text)
  | 0, _, rest => .error (faultAt lines rest (say "too deep"))
  | fuel + 1, expected, rest => do
    let (condition, rest) ← readList lines fuel false rest
    let (body, rest) ← readBody lines fuel rest
    return (.loop expected condition body, rest)

/-- The part of a loop that is repeated. -/
def readBody (lines : Nat) : Nat → Text → Except SyntaxFault (Command × Text)
  | 0, rest => .error (faultAt lines rest (say "too deep"))
  | fuel + 1, rest => do
    let rest ← expectWord lines "do" rest
    let (body, rest) ← readList lines fuel false rest
    let rest ← expectWord lines "done" rest
    return (body, rest)

/-- A loop over words, behind its first word. -/
def readFor (lines : Nat) : Nat → Nat → Text → Except SyntaxFault (Command × Text)
  | 0, _, rest => .error (faultAt lines rest (say "too deep"))
  | fuel + 1, line, rest => do
    let bad := faultAt lines rest (say "Bad for loop variable")
    let (target, rest) ← (readWord lines fuel rest).mapError fun _ => bad
    let name := (plainText? target).getD []
    if !isName name then throw bad
    let ahead := skipLines rest
    let (words, rest) ←
      if tokenOf ahead = .word && peekWord ahead = "in" then readWords lines fuel (ahead.drop 2)
      else
        let rest := dropGap rest
        pure ([[.parameter ['@'] true]], if tokenOf rest = .semicolon then rest.drop 1 else rest)
    let (body, rest) ← readBody lines fuel rest
    return (.forEach line name words body, rest)

/-- The branches of a choice by patterns, up to its closing word. -/
def readBranches (lines : Nat) : Nat → Text → Except SyntaxFault (List (List Word × Command) × Text)
  | 0, rest => .error (faultAt lines rest (say "too deep"))
  | fuel + 1, rest => do
    let rest := skipLines rest
    if tokenOf rest = .word && peekWord rest = "esac" then return ([], rest.drop 4)
    else
      let rest := if tokenOf rest = .opening then rest.drop 1 else rest
      let (patterns, rest) ← readPatterns lines fuel rest
      let (body, rest) ← readList lines fuel true rest
      let rest := skipLines rest
      match tokenOf rest with
      | .branchEnd =>
        let (branches, rest) ← readBranches lines fuel (rest.drop 2)
        return ((patterns, body) :: branches, rest)
      | _ =>
        if tokenOf rest = .word && peekWord rest = "esac" then
          return ([(patterns, body)], rest.drop 4)
        else throw (unexpected lines rest "\";;\"")

/-- Patterns with bars between them, up to the closing bracket. -/
def readPatterns (lines : Nat) : Nat → Text → Except SyntaxFault (List Word × Text)
  | 0, rest => .error (faultAt lines rest (say "too deep"))
  | fuel + 1, rest => do
    let (pattern, rest) ← readWord lines fuel rest
    let rest := dropGap rest
    match tokenOf rest with
    | .bar =>
      let (patterns, rest) ← readPatterns lines fuel (rest.drop 1)
      return (pattern :: patterns, rest)
    | .closing => return ([pattern], rest.drop 1)
    | _ => throw (unexpected lines rest "\")\"")

end

/-- Commands up to the end of a line; a whole line of blanks holds none. -/
def readLine (lines : Nat) : Nat → Text → Except SyntaxFault (Command × Text)
  | 0, rest => .error (faultAt lines rest (say "too deep"))
  | fuel + 1, rest => do
    let rest := dropGap rest
    match tokenOf rest with
    | .endOfText => return (.skip, [])
    | .lineEnd => return (.skip, rest.drop 1)
    | _ =>
      let start := lineAt lines rest
      let (first, rest) ← readConnected lines (8 * rest.length + 64) rest
      let rest := dropGap rest
      match tokenOf rest with
      | .semicolon =>
        let (second, rest) ← readLine lines fuel (rest.drop 1)
        return (first.followedBy second, rest)
      | .ampersand =>
        let (second, rest) ← readLine lines fuel (rest.drop 1)
        return ((Command.background start first).followedBy second, rest)
      | .lineEnd => return (first, rest.drop 1)
      | .endOfText => return (first, [])
      | _ => throw (unexpected lines rest "")

/-- The first line of a script that is left, and what follows it; none at the end of the script. -/
def nextLine (lines : Nat) (rest : Text) : Option (Except SyntaxFault (Command × Text)) :=
  if rest.isEmpty then none else some (readLine lines (rest.length + 1) rest)

end XmlSupport.Shell
