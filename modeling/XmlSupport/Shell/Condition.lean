import XmlSupport.Machine.Files
import XmlSupport.Shell.Format

/-!
# Conditions

Conditions on texts, numbers and files, as `test` reads them from its arguments.
-/

namespace XmlSupport.Shell.Condition

open Machine

def unaryOperators : List String :=
  ["-r", "-w", "-x", "-e", "-f", "-d", "-c", "-b", "-p", "-u", "-g", "-k", "-s", "-t", "-z", "-n",
   "-h", "-O", "-G", "-L", "-S"]

def binaryOperators : List String :=
  ["=", "==", "!=", "<", ">", "-eq", "-ne", "-gt", "-ge", "-lt", "-le", "-nt", "-ot", "-ef"]

def isUnary (text : Text) : Bool := unaryOperators.contains (String.ofList text)

def isBinary (text : Text) : Bool := binaryOperators.contains (String.ofList text)

/-- Where the files are that a condition may be about. -/
structure Surroundings where
  files : Files
  current : Machine.Place

def Surroundings.node? (p : Surroundings) (path : Text) : Option Node :=
  (p.files.lookUp p.current (toBytes path)).toOption

def examine (p : Surroundings) (operator : Text) (a : Text) : Bool :=
  match String.ofList operator with
  | "-n" => !a.isEmpty
  | "-z" => a.isEmpty
  | "-f" => match p.node? a with
    | some (.file _ _) => a != "/dev/null".toList
    | _ => false
  | "-s" => match p.node? a with
    | some (.file content _) => !content.isEmpty
    | some _ => true
    | none => false
  | "-x" => match p.node? a with
    | some (.file _ executable) => executable
    | some _ => true
    | none => false
  | "-d" => match p.node? a with
    | some (.directory _) => true
    | _ => false
  | "-c" => (p.node? a).isSome && (a = "/dev/null".toList || a = "/dev/zero".toList)
  | operator =>
    if ["-r", "-w", "-e", "-O", "-G"].contains operator then (p.node? a).isSome else false

def number (text : Text) : Except Text Int :=
  let trimmed := text.dropWhile fun c => c = ' ' || c = '\t' || c = '\n'
  let trimmed := (trimmed.reverse.dropWhile fun c => c = ' ' || c = '\t' || c = '\n').reverse
  let (sign, digits) : Int × Text := match trimmed with
    | '-' :: rest => (-1, rest)
    | '+' :: rest => (1, rest)
    | rest => (1, rest)
  if !digits.isEmpty && digits.all Char.isDigit then .ok (sign * Format.number digits)
  else .error (say "Illegal number: " ++ text)

def compare (p : Surroundings) (a operator b : Text) : Except Text Bool :=
  match String.ofList operator with
  | "=" => .ok (a = b)
  | "==" => .ok (a = b)
  | "!=" => .ok (a != b)
  | "<" => .ok (a < b)
  | ">" => .ok (b < a)
  | "-nt" => .ok ((p.node? a).isSome && (p.node? b).isNone)
  | "-ot" => .ok ((p.node? a).isNone && (p.node? b).isSome)
  | "-ef" => .ok ((p.files.resolve p.current (toBytes a)).toOption.isSome &&
      (p.files.resolve p.current (toBytes a)).toOption =
        (p.files.resolve p.current (toBytes b)).toOption)
  | operator => do
    let m ← number a
    let n ← number b
    return match operator with
      | "-eq" => m = n
      | "-ne" => m ≠ n
      | "-gt" => m > n
      | "-ge" => m ≥ n
      | "-lt" => m < n
      | _ => m ≤ n

/-- Whether an operator in front of other words is only a word itself. -/
def isOperand (rest : List Text) : Bool :=
  match rest with
  | [] => true
  | [_] => false
  | next :: _ => isBinary next

def unexpected (text : Text) : Text := text ++ say ": unexpected operator"

mutual

def readEither (p : Surroundings) : Nat → List Text → Except Text (Bool × List Text)
  | 0, _ => .error (say "too deep")
  | fuel + 1, words => do
    let (a, rest) ← readBoth p fuel words
    match rest with
    | ['-', 'o'] :: rest =>
      let (b, rest) ← readEither p fuel rest
      return (a || b, rest)
    | rest => return (a, rest)

def readBoth (p : Surroundings) : Nat → List Text → Except Text (Bool × List Text)
  | 0, _ => .error (say "too deep")
  | fuel + 1, words => do
    let (a, rest) ← readNegated p fuel words
    match rest with
    | ['-', 'a'] :: rest =>
      let (b, rest) ← readBoth p fuel rest
      return (a && b, rest)
    | rest => return (a, rest)

def readNegated (p : Surroundings) : Nat → List Text → Except Text (Bool × List Text)
  | 0, _ => .error (say "too deep")
  | fuel + 1, words =>
    match words with
    | ['!'] :: rest => (readNegated p fuel rest).map fun (a, rest) => (!a, rest)
    | words => readPrimary p fuel words

def readPrimary (p : Surroundings) : Nat → List Text → Except Text (Bool × List Text)
  | 0, _ => .error (say "too deep")
  | fuel + 1, words =>
    match words with
    | [] => .ok (false, [])
    | word :: rest =>
      if word = ['('] && !rest.isEmpty then do
        let (a, rest) ← readEither p fuel rest
        match rest with
        | [')'] :: rest => return (a, rest)
        | _ => throw (say "closing paren expected")
      else if isUnary word && !isOperand rest then
        match rest with
        | a :: rest => .ok (examine p word a, rest)
        | [] => .error (word ++ say ": argument expected")
      else
        match rest with
        | operator :: more =>
          if isBinary operator then
            match more with
            | b :: rest => (compare p word operator b).map fun value => (value, rest)
            | [] => .error (operator ++ say ": argument expected")
          else .ok (!word.isEmpty, rest)
        | [] => .ok (!word.isEmpty, [])

end

def whole (p : Surroundings) (words : List Text) : Except Text Bool := do
  let (value, rest) ← readEither p (8 * words.length + 8) words
  match rest with
  | [] => return value
  | word :: _ => throw (unexpected word)

/-- The value of a condition. Its meaning hangs on the number of its words first. -/
def evaluate (p : Surroundings) : Nat → List Text → Except Text Bool
  | 0, _ => .error (say "too deep")
  | fuel + 1, words =>
    match words with
    | [] => .ok false
    | [a, operator, b] =>
      if isBinary operator then compare p a operator b
      else if a = ['('] && b = [')'] then whole p [operator]
      else if a = ['!'] then (evaluate p fuel [operator, b]).map (!·)
      else whole p words
    | [a, b, c, d] =>
      if a = ['('] && d = [')'] then whole p [b, c]
      else if a = ['!'] then (evaluate p fuel [b, c, d]).map (!·)
      else whole p words
    | words => whole p words

/-- The status of `test` and what it complains about. -/
def status (p : Surroundings) (words : List Text) : Nat × Option Text :=
  match evaluate p (words.length + 1) words with
  | .ok true => (0, none)
  | .ok false => (1, none)
  | .error message => (2, some message)

end XmlSupport.Shell.Condition
