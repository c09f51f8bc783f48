import XmlSupport.Shell.Program.Basic

/-!
# Filters

Programs that turn text into text, mostly line by line.
-/

namespace XmlSupport.Shell.Program

/-- Maps the lines of a text; a missing line end behind the last one stays missing. -/
def mapLines (f : List Text → List Text) (text : Text) : Text :=
  let changed := unlines (f (lines text))
  if text.getLast? = some '\n' then changed else changed.dropLast

def wordCount (text : Text) : Nat :=
  (text.foldl (fun (n, inside) c =>
    if c.isWhitespace then (n, false) else (if inside then n else n + 1, true)) (0, false)).1

def padLeft (width : Nat) (text : Text) : Text := List.replicate (width - text.length) ' ' ++ text

/-- The counts that are asked for: lines, words, characters, bytes. -/
def counts (args : List Text) (text : Text) : List Nat :=
  let all := !(['l', 'w', 'c', 'm'].any fun letter => hasOption letter args)
  (if all || hasOption 'l' args then [text.count '\n'] else []) ++
    (if all || hasOption 'w' args then [wordCount text] else []) ++
    (if hasOption 'm' args then [text.length] else []) ++
    (if all || hasOption 'c' args then [text.length] else [])

def countLine (width : Nat) (counts : List Nat) (operand : Text) : Text :=
  let numbers := joinWords (counts.map fun n => padLeft width (decimal n))
  if operand.isEmpty then numbers ++ ['\n'] else numbers ++ ' ' :: operand ++ ['\n']

def wc (call : Call) : Effect :=
  let operands := operandsOf call.args
  let (contents, errors) := call.contents "wc" operands
  let rows := contents.map fun (operand, text) =>
    (if operands.isEmpty then [] else operand, counts call.args text)
  let total := contents.flatMap (·.2)
  let width :=
    if rows.length = 1 && operands.length ≤ 1 && (counts call.args []).length = 1 then 1
    else if takesInput operands then 7
    else (decimal total.length).length
  let rows := if operands.length ≤ 1 then rows
    else rows ++ [("total".toList, counts call.args total)]
  { output := rows.flatMap fun (operand, numbers) => countLine width numbers operand
    errors := errors
    status := if errors.isEmpty then 0 else 1
    taken := if takesInput operands then none else some 0 }

def charactersBetween (a b : Char) : Text :=
  (List.range (b.toNat + 1 - a.toNat)).map fun i => Char.ofNat (a.toNat + i)

def classes : List (String × Text) :=
  [("[:upper:]", charactersBetween 'A' 'Z'), ("[:lower:]", charactersBetween 'a' 'z'),
   ("[:digit:]", charactersBetween '0' '9'),
   ("[:alpha:]", charactersBetween 'A' 'Z' ++ charactersBetween 'a' 'z'),
   ("[:alnum:]",
     charactersBetween '0' '9' ++ charactersBetween 'A' 'Z' ++ charactersBetween 'a' 'z'),
   ("[:space:]", ['\t', '\n', '\x0b', '\x0c', '\r', ' ']), ("[:blank:]", ['\t', ' ']),
   ("[:punct:]", (charactersBetween '!' '~').filter fun c => !c.isAlphanum),
   ("[:xdigit:]",
     charactersBetween '0' '9' ++ charactersBetween 'A' 'F' ++ charactersBetween 'a' 'f'),
   ("[:cntrl:]", charactersBetween '\x00' '\x1f' ++ ['\x7f']),
   ("[:print:]", charactersBetween ' ' '~'), ("[:graph:]", charactersBetween '!' '~')]

/-- The characters of a set: single ones, escapes, ranges and classes. -/
def expandSet : Nat → Text → Text
  | 0, _ => []
  | _, [] => []
  | fuel + 1, c :: rest =>
    match classes.find? fun (name, _) => name.toList.isPrefixOf (c :: rest) with
    | some (name, members) => members ++ expandSet fuel ((c :: rest).drop name.length)
    | none =>
      let (front, rest) := if c = '\\' then Format.escape rest else ([c], rest)
      let first := front.getLastD c
      match rest with
      | '-' :: last :: rest =>
        let (back, rest) := if last = '\\' then Format.escape rest else ([last], rest)
        charactersBetween first (back.getLastD last) ++ expandSet fuel rest
      | rest => front ++ expandSet fuel rest

def setOf (text : Text) : Text := expandSet (text.length + 1) text

def exchange (source target : Text) (c : Char) : Char :=
  match source.idxOf? c with
  | some i => (target[i]?).getD (target.getLastD c)
  | none => c

def squeeze (members : Text) : Text → Text
  | [] => []
  | c :: rest =>
    let rest' := squeeze members rest
    if members.contains c && rest'.head? == some c then rest' else c :: rest'

def tr (args : List Text) (text : Text) : Text :=
  let options := args.takeWhile fun a => a.head? == some '-' && a.length > 1
  let isComplement := hasOption 'c' options || hasOption 'C' options
  match args.drop options.length with
  | [source] =>
    let source := setOf source
    let kept (c : Char) : Bool := source.contains c == isComplement
    if hasOption 'd' options then text.filter kept
    else if hasOption 's' options then
      squeeze (if isComplement then text.filter fun c => !source.contains c else source) text
    else text
  | source :: target :: _ =>
    let source := setOf source
    let target := setOf target
    if hasOption 'd' options then
      squeeze target (text.filter fun c => source.contains c == isComplement)
    else
      let changed := if isComplement
        then text.map fun c => if source.contains c then c else target.getLastD c
        else text.map (exchange source target)
      if hasOption 's' options then squeeze target changed else changed
  | [] => text

inductive Measure where
  | lines
  | bytes
  deriving DecidableEq

/-- How much of its input a program is to show, and the operands behind. -/
def amount : List Text → Measure × Text × List Text
  | ('-' :: 'n' :: []) :: n :: rest => (.lines, n, operandsOf rest)
  | ('-' :: 'c' :: []) :: n :: rest => (.bytes, n, operandsOf rest)
  | ('-' :: 'n' :: n) :: rest => (.lines, n, operandsOf rest)
  | ('-' :: 'c' :: n) :: rest => (.bytes, n, operandsOf rest)
  | ('-' :: d :: n) :: rest =>
    if d.isDigit then (.lines, d :: n, operandsOf rest) else (.lines, "10".toList, operandsOf rest)
  | args => (.lines, "10".toList, operandsOf args)

/-- A number with a letter for its unit behind it. -/
def quantity (text : Text) : Nat :=
  let digits := text.takeWhile Char.isDigit
  let unit := match text.drop digits.length with
    | 'b' :: _ => 512
    | ['k', 'B'] => 1000
    | 'k' :: _ => 1024
    | ['K', 'B'] => 1000
    | 'K' :: _ => 1024
    | 'M' :: _ => 1048576
    | _ => 1
  Format.number digits * unit

/-- The first lines of a text, as far as they go. -/
def takeLines : Nat → Text → Text
  | 0, _ => []
  | _, [] => []
  | n + 1, c :: rest => if c = '\n' then c :: takeLines n rest else c :: takeLines (n + 1) rest

def shorten (measure : Measure) (n : Text) (text : Text) : Text :=
  match measure, n with
  | .lines, '-' :: n => unlines ((lines text).take ((lines text).length - quantity n))
  | .lines, n => takeLines (quantity n) text
  | .bytes, '-' :: n => text.take (text.length - quantity n)
  | .bytes, n => text.take (quantity n)

/-- What a program reads at once. -/
def blockSize : Nat := 8192

/-- The end of the block in which a number of bytes end. -/
def wholeBlocks (n : Nat) : Nat := (n + blockSize - 1) / blockSize * blockSize

/-- Heads of several files have their names above them. -/
def titled (contents : List (Text × Text)) : Text :=
  match contents with
  | [(_, text)] => text
  | contents => ['\n'].intercalate (contents.map fun (operand, text) =>
      say "==> " ++ (if operand = ['-'] then say "standard input" else operand) ++
        say " <==\n" ++ text)

def head (call : Call) : Effect :=
  let (measure, n, operands) := amount call.args
  if operands = ["/dev/zero".toList] && measure = .bytes then
    Effect.printing (List.replicate (quantity n) '\x00')
  else
    let (contents, errors) := call.contents "head" operands
    let shown := contents.map fun (operand, text) => (operand, shorten measure n text)
    let taken := (shorten measure n call.input).length
    let taken := if measure = .bytes || call.isSeekable then taken else wholeBlocks taken
    let errors := (lines errors).map fun line =>
      let operand := (line.drop 6).takeWhile (· != ':')
      say "head: cannot open '" ++ operand ++ say "' for reading" ++ line.drop (6 + operand.length)
    { output := titled shown
      errors := unlines errors
      status := if errors.isEmpty then 0 else 1
      taken := if takesInput operands then some (min taken call.input.length) else some 0 }

def tail (args : List Text) (text : Text) : Text :=
  match amount args with
  | (.lines, '+' :: n, _) => text.drop (takeLines (quantity n - 1) text).length
  | (.lines, n, _) =>
    let all := lines text
    let kept := all.drop (all.length - quantity (n.dropWhile (· = '-')))
    if text.getLast? == some '\n' then unlines kept else (unlines kept).dropLast
  | (.bytes, '+' :: n, _) => text.drop (quantity n - 1)
  | (.bytes, n, _) => text.drop (text.length - quantity (n.dropWhile (· = '-')))

/-- The leading number of a line. -/
def leadingNumber (line : Text) : Int :=
  match line.dropWhile (· = ' ') with
  | '-' :: rest => -(Format.number (rest.takeWhile Char.isDigit) : Int)
  | rest => (Format.number (rest.takeWhile Char.isDigit) : Int)

def sort (args : List Text) (text : Text) : Text :=
  let inOrder (a b : Text) : Bool :=
    if hasOption 'n' args then
      leadingNumber a < leadingNumber b || (leadingNumber a = leadingNumber b && !decide (b < a))
    else !decide (b < a)
  let isReversed := hasOption 'r' args
  let sorted := (lines text).mergeSort fun a b => if isReversed then inOrder b a else inOrder a b
  unlines (if hasOption 'u' args then sorted.eraseReps else sorted)

/-- Neighbouring lines that are equal, with their number. -/
def runs : List Text → List (Nat × Text)
  | [] => []
  | line :: rest =>
    match runs rest with
    | (n, other) :: more =>
      if line = other then (n + 1, line) :: more else (1, line) :: (n, other) :: more
    | [] => [(1, line)]

def uniq (args : List Text) (text : Text) : Text :=
  let kept := (runs (lines text)).filter fun (n, _) =>
    (!hasOption 'd' args || 1 < n) && (!hasOption 'u' args || n = 1)
  unlines (kept.map fun (n, line) =>
    if hasOption 'c' args then padLeft 7 (decimal n) ++ ' ' :: line else line)

/-- Ranges of a list such as `1,3-5,7-`, as first and last members. -/
def ranges (list : Text) : List (Nat × Nat) :=
  (list.splitOn ',').map fun part =>
    match part.splitOn '-' with
    | [one] => (Format.number one, Format.number one)
    | first :: last :: _ =>
      (if first.isEmpty then 1 else Format.number first,
       if last.isEmpty then 0x7FFFFFFF else Format.number last)
    | [] => (0, 0)

def isInRanges (rs : List (Nat × Nat)) (n : Nat) : Bool := rs.any fun (a, b) => a ≤ n && n ≤ b

def pick {α : Type} (rs : List (Nat × Nat)) (items : List α) : List α :=
  (items.zipIdx 1).filterMap fun (item, n) => if isInRanges rs n then some item else none

/-- The arguments of `cut`: its delimiter, what it counts, and its operands. -/
def cut (call : Call) : Effect :=
  let (delimiter, args) := takeValue 'd' call.args
  let (fields, args) := takeValue 'f' args
  let (characters, args) := takeValue 'c' args
  let (bytes, args) := takeValue 'b' args
  let separator := (delimiter.getD ['\t']).headD '\t'
  let cutLine (line : Text) : Option Text :=
    match fields with
    | some list =>
      if line.contains separator then
        some ([separator].intercalate (pick (ranges list) (line.splitOn separator)))
      else if hasOption 's' args then none else some line
    | none => some (pick (ranges ((characters.or bytes).getD [])) line)
  call.filter "cut" (operandsOf args) fun text => unlines ((lines text).filterMap cutLine)

def numberLines (args : List Text) (text : Text) : Text :=
  let all := args.contains "-ba".toList
  unlines ((lines text).foldl (fun (shown, n) line =>
    if line.isEmpty && !all then (shown ++ [List.replicate 7 ' '], n)
    else (shown ++ [padLeft 6 (decimal n) ++ '\t' :: line], n + 1)) ([], 1)).1

/-- How `cat` shows its text: numbered or with visible ends. -/
def cat (args : List Text) (text : Text) : Text :=
  let numbered (text : Text) : Text :=
    mapLines
      (fun ls => (ls.zipIdx 1).map fun (line, n) => padLeft 6 (decimal n) ++ '\t' :: line) text
  let text := if hasOption 'n' args && !text.isEmpty then numbered text else text
  if hasOption 'E' args then text.flatMap fun c => if c = '\n' then ['$', '\n'] else [c] else text

/-- Bytes as numbers, sixteen in a line. -/
def dumpRows (offset : Nat) (width : Nat) (shownAs : Char → Text) (withOffset : Bool) :
    Nat → Text → List Text
  | 0, _ => []
  | _, [] => if withOffset then [padZero 7 (Nat.toDigits 8 offset)] else []
  | fuel + 1, text =>
    let row := text.take 16
    ((if withOffset then padZero 7 (Nat.toDigits 8 offset) else []) ++
      row.flatMap fun c => padLeft width (shownAs c)) ::
      dumpRows (offset + row.length) width shownAs withOffset fuel (text.drop 16)
where
  padZero (width : Nat) (text : Text) : Text := List.replicate (width - text.length) '0' ++ text

def hexByte (c : Char) : Text :=
  let digits := Nat.toDigits 16 c.toNat
  if digits.length < 2 then '0' :: digits else digits

def octalByte (c : Char) : Text :=
  let digits := Nat.toDigits 8 c.toNat
  List.replicate (3 - digits.length) '0' ++ digits

def shownByte (c : Char) : Text :=
  if c = '\x00' then ['\\', '0']
  else if c = '\n' then ['\\', 'n']
  else if c = '\t' then ['\\', 't']
  else if c = '\r' then ['\\', 'r']
  else if ' ' ≤ c && c ≤ '~' then [c]
  else octalByte c

def od (args : List Text) (text : Text) : Text :=
  let withOffset := !(args.any fun a => "-An".toList.isPrefixOf a) && !hasOption 'A' args
  let joined := (optionsOf args).flatten
  let has (kind : String) : Bool :=
    (List.range joined.length).any fun i => kind.toList.isPrefixOf (joined.drop i)
  let rows := dumpRows 0 (if has "x1" then 3 else 4)
    (if has "x1" then hexByte else if has "c" then shownByte else if has "u1" || has "d1" then
      fun c => decimal c.toNat else octalByte) withOffset (text.length + 2) text
  unlines rows

end XmlSupport.Shell.Program
