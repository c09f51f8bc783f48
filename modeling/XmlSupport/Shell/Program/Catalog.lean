import XmlSupport.Shell.Condition
import XmlSupport.Shell.Program.Filter
import XmlSupport.Shell.Program.Tree

/-!
# The programs beside the shell

Programs by their names, apart from those that start other programs.
-/

namespace XmlSupport.Shell.Program

/-- A number of seconds with a unit behind it, in microseconds. -/
def microseconds? (text : Text) : Option Nat :=
  let whole := text.takeWhile Char.isDigit
  let (part, unit) := match text.drop whole.length with
    | '.' :: rest => (rest.takeWhile Char.isDigit, rest.dropWhile Char.isDigit)
    | rest => ([], rest)
  let factor := match unit with
    | [] => some 1
    | ['s'] => some 1
    | ['m'] => some 60
    | ['h'] => some 3600
    | ['d'] => some 86400
    | _ => none
  if whole.isEmpty && part.isEmpty then
    if text = "infinity".toList || text = "inf".toList then some 1000000000000000 else none
  else
    factor.map fun f =>
      (Format.number whole * 1000000 + Format.number ((part ++ List.replicate 6 '0').take 6)) * f

def tryHelp (name : String) : Text :=
  say ("\nTry '" ++ name ++ " --help' for more information.")

def sleep (args : List Text) : Effect :=
  match args with
  | [] => Effect.failing 1 (say "sleep: missing operand" ++ tryHelp "sleep")
  | args =>
    match args.mapM microseconds? with
    | some times => { duration := times.foldl (· + ·) 0 }
    | none =>
      let bad := args.filter fun a => (microseconds? a).isNone
      Effect.failing 1 (['\n'].intercalate (bad.map fun a =>
        say "sleep: invalid time interval '" ++ a ++ ['\'']) ++ tryHelp "sleep")

def integer (text : Text) : Int :=
  match text with
  | '-' :: rest => -(Format.number rest : Int)
  | rest => (Format.number rest : Int)

/-- Numbers from a first to a last one. -/
def countUp (first step last : Int) : List Int :=
  if step = 0 then []
  else
    let count := ((last - first) / step + 1).toNat
    (List.range count).map fun (i : Nat) => first + (i : Int) * step

def seq (args : List Text) : Effect :=
  let (separator, args) := takeValue 's' args
  let numbers := match args.map integer with
    | [last] => countUp 1 1 last
    | [first, last] => countUp first 1 last
    | [first, step, last] => countUp first step last
    | _ => []
  if numbers.isEmpty then .success
  else Effect.printing
    ((separator.getD ['\n']).intercalate (numbers.map integerText) ++ ['\n'])

/-- How many lines a program writes that only stops when nobody reads on. -/
def endlessCount : Nat := 200000

/-- A line over and over again. Where it is read at all, only its beginning is. -/
def yes (args : List Text) : Text :=
  let line := if args.isEmpty then ['y'] else joinWords args
  unlines (List.replicate endlessCount line)

/-- The compiled `echo` takes escapes as they stand unless it is told otherwise. -/
def echo (args : List Text) : Text :=
  match args with
  | ['-', 'n'] :: rest => joinWords rest
  | ['-', 'e'] :: rest =>
    let (text, stops) := Format.expand (joinWords rest)
    if stops then text else text ++ ['\n']
  | args => joinWords args ++ ['\n']

def printf (args : List Text) : Effect :=
  match args with
  | [] => Effect.failing 1 (say "printf: missing operand" ++ tryHelp "printf")
  | format :: args =>
    let (text, refused) := Format.printf format args
    { output := text
      errors := refused.flatMap fun t => say "printf: '" ++ t ++ say "': expected a numeric value\n"
      status := if refused.isEmpty then 0 else 1 }

def test (name : String) (call : Call) (args : List Text) : Effect :=
  match Condition.status ⟨call.files, call.current⟩ args with
  | (status, none) => { status := status }
  | (status, some message) => Effect.failing status (say (name ++ ": ") ++ message)

def truth (b : Bool) : Int := if b then 1 else 0

/-- An expression of two operands. -/
def calculate (a operator b : Text) : Option Text :=
  let isNumber (t : Text) : Bool :=
    let digits := if t.head? = some '-' then t.drop 1 else t
    !digits.isEmpty && digits.all Char.isDigit
  let numeric := isNumber a && isNumber b
  let m := integer a
  let n := integer b
  let compared (onNumbers onTexts : Bool) : Option Text :=
    some (integerText (truth (if numeric then onNumbers else onTexts)))
  match String.ofList operator with
  | "+" => if numeric then some (integerText (m + n)) else none
  | "-" => if numeric then some (integerText (m - n)) else none
  | "*" => if numeric then some (integerText (m * n)) else none
  | "/" => if numeric && n != 0 then some (integerText (m.tdiv n)) else none
  | "%" => if numeric && n != 0 then some (integerText (m.tmod n)) else none
  | "=" => compared (m = n) (a = b)
  | "==" => compared (m = n) (a = b)
  | "!=" => compared (m != n) (a != b)
  | "<" => compared (m < n) (a < b)
  | "<=" => compared (m ≤ n) (!decide (b < a))
  | ">" => compared (m > n) (b < a)
  | ">=" => compared (m ≥ n) (!decide (a < b))
  | "|" => some (if a.isEmpty || a = ['0'] then b else a)
  | "&" => some (if a.isEmpty || a = ['0'] || b.isEmpty || b = ['0'] then ['0'] else a)
  | _ => none

/-- Works from left to right, products and quotients first. -/
def simplify (levels : List (List String)) (words : List Text) : Option Text :=
  let apply (words : Option (List Text)) (level : List String) := words.bind (reduce level)
  match levels.foldl apply (some words) with
  | some [value] => some value
  | _ => none
where
  reduce (level : List String) (words : List Text) : Option (List Text) :=
    match words with
    | [] => some []
    | first :: rest => go level [] first rest
  go (level : List String) (done : List Text) (value : Text) : List Text → Option (List Text)
    | operator :: b :: rest =>
      if level.contains (String.ofList operator) then
        match calculate value operator b with
        | some value => go level done value rest
        | none => none
      else go level (done ++ [value, operator]) b rest
    | rest => some (done ++ value :: rest)

def expr (args : List Text) : Effect :=
  match args with
  | [name, text] =>
    if name = "length".toList then Effect.printing (decimal text.length ++ ['\n'])
    else Effect.failing 2 (say "expr: syntax error: unexpected argument '" ++ text ++ ['\''])
  | args =>
    match simplify
        [["*", "/", "%"], ["+", "-"], ["=", "==", "!=", "<", "<=", ">", ">="], ["&"], ["|"]]
        args with
    | some value =>
      { output := value ++ ['\n'], status := if value.isEmpty || value = ['0'] then 1 else 0 }
    | none => Effect.failing 2 (say "expr: non-integer argument")

def tee (call : Call) : Effect :=
  let effect := onEach call (operandsOf call.args) (fun files operand =>
    let content := match hasOption 'a' call.args, files.read call.current (toBytes operand) with
      | true, .ok content => content
      | _, _ => []
    files.write call.current (toBytes operand) (content ++ toBytes call.input) false)
    (fun operand fault => about "tee" operand fault.text)
  { effect with output := call.input, taken := none }

def basenames (args : List Text) : Effect :=
  match args with
  | [] => Effect.failing 1 (say "basename: missing operand" ++ tryHelp "basename")
  | path :: rest => Effect.printing (basename path (rest.headD []) ++ ['\n'])

/-- Runs a program by its name; none for a program that starts others. -/
def run (name : String) (call : Call) : Option Effect :=
  let args := call.args
  match name with
  | "cat" => some (call.filter name (operandsOf args) (cat args))
  | "tee" => some (tee call)
  | "rev" => some (call.filter name (operandsOf args) (mapLines (·.map List.reverse)))
  | "tac" => some (call.filter name (operandsOf args) fun t => unlines (lines t).reverse)
  | "sort" => some (call.filter name (operandsOf args) (sort args))
  | "uniq" => some (call.filter name (operandsOf args) (uniq args))
  | "nl" => some (call.filter name (operandsOf args) (numberLines args))
  | "od" =>
    let (_, rest) := takeValue 't' (takeValue 'A' args).2
    some (call.filter name (operandsOf rest) (od args))
  | "wc" => some (wc call)
  | "cut" => some (cut call)
  | "tr" => some (call.filter name [] (tr args))
  | "head" => some (head call)
  | "tail" => some (call.filter name (amount args).2.2 (tail args))
  | "seq" => some (seq args)
  | "yes" => some (.printing (yes args))
  | "sleep" => some (sleep args)
  | "true" => some .success
  | "false" => some { status := 1 }
  | "echo" => some (.printing (echo args))
  | "printf" => some (printf args)
  | "expr" => some (expr args)
  | "test" => some (test name call args)
  | "[" =>
    if args.getLast? = some [']'] then some (test name call args.dropLast)
    else some (.failing 2 (say "[: missing ']'"))
  | "ls" => some (ls call)
  | "touch" => some (touch call)
  | "mkdir" => some (mkdir call)
  | "rmdir" => some (rmdir call)
  | "rm" => some (rm call)
  | "cp" => some (cp call)
  | "mv" => some (mv call)
  | "chmod" => some (chmod call)
  | "basename" => some (basenames args)
  | "dirname" => some (.printing (unlines ((operandsOf args).map dirname)))
  | "pwd" => some (.printing (placeText call.current ++ ['\n']))
  | "whoami" => some (.printing (say "root\n"))
  | "printenv" =>
    match args with
    | [] => some (.printing (environmentText call.environment))
    | name :: _ =>
      match call.environment.lookup name with
      | some v => some (.printing (v ++ ['\n']))
      | none => some { status := 1 }
  | _ => none

end XmlSupport.Shell.Program
