import XmlSupport.Machine.Layout
import XmlSupport.Shell.Condition
import XmlSupport.Shell.Input
import XmlSupport.Shell.Lookup
import XmlSupport.Shell.Program.Catalog
import XmlSupport.Shell.Reader.Script

/-!
# Commands inside the shell

Commands that read or change the state of the shell itself.
-/

namespace XmlSupport.Shell.Builtin

open Machine

/-- Commands whose faults end the shell, and whose assignments stay. -/
def specialNames : List String :=
  [".", ":", "break", "continue", "eval", "exec", "exit", "export", "readonly", "return", "set",
   "shift", "times", "trap", "unset"]

def otherNames : List String :=
  ["[", "alias", "bg", "cd", "command", "echo", "false", "fg", "getopts", "hash", "jobs", "kill",
   "local", "printf", "pwd", "read", "test", "true", "type", "ulimit", "umask", "unalias", "wait"]

def isSpecial (name : Text) : Bool := specialNames.contains (String.ofList name)

def isBuiltin (name : Text) : Bool := isSpecial name || otherNames.contains (String.ofList name)

def succeed (st : State) (status : Nat) : State := { st with status := status }

/-- A fault of a command, which may end the shell. -/
def refuse (st : State) (name : Text) (message : Text) : State :=
  let st := st.complain (name ++ say ": " ++ message)
  { st with status := 2, flow := if isSpecial name && st.isRunning then .quit else st.flow }

/-- Writes the output of a command. -/
def print (st : State) (name : Text) (text : Text) (status : Nat) : State :=
  match st.write 1 text with
  | (st, none) => succeed st status
  | (st, some _) =>
    if st.isRunning then succeed (st.complain (name ++ say ": " ++ name ++ say ": I/O error")) 1
    else st

/-- A text in quotes that the shell can read again. -/
def quoted (text : Text) : Text :=
  let parts := text.splitOn '\''
  ['"', '\'', '"'].intercalate (parts.map fun p => '\'' :: p ++ ['\''])

def illegalNumber (text : Text) : Text := say "Illegal number: " ++ text

def natural? (text : Text) : Option Nat :=
  if !text.isEmpty && text.all Char.isDigit && Format.number text ≤ 0x7FFFFFFF then
    some (Format.number text)
  else none

/-- A signal by its number or its name; zero is the end of the shell. -/
def signal? (text : Text) : Option Nat :=
  match natural? text with
  | some n => if n ≤ 64 then some n else none
  | none =>
    let name := String.ofList (text.map Char.toUpper)
    if name = "EXIT" then some 0
    else if name = "RTMIN" then some 34
    else if name = "RTMAX" then some 64
    else Signal.number? name

def signalName (signal : Nat) : Text :=
  if signal = 0 then say "EXIT"
  else if signal = 34 then say "RTMIN"
  else if signal = 64 then say "RTMAX"
  else
    match Signal.name? signal with
    | some name => say name
    | none => say ("RTMIN+" ++ toString (signal - 34))

/-- Whether a process can be sent signals. -/
def isKnown (st : State) (process : Nat) : Bool :=
  process = st.process || process = st.root || process = 0 ||
    st.jobs.any fun j => j.process = process

def sendAll (st : State) (signal : Nat) (operands : List Text) : State :=
  operands.foldl (fun st operand =>
    let digits := if operand.head? = some '-' then operand.drop 1 else operand
    let target := match digits with
      | '%' :: n => ((st.jobs.filter (·.parent = st.process))[Format.number n - 1]?.map (·.process))
      | digits => natural? digits
    match target with
    | none => refuse st (say "kill") (illegalNumber operand)
    | some process =>
      if !isKnown st process then
        succeed (st.complain (say "kill: No such process\n")) 1
      else if signal = 0 || Signal.isIgnored signal then st
      else if process = 0 then (st.kill st.root signal).kill st.process signal
      else st.kill process signal) (succeed st 0)

def killUsage : Text :=
  say ("Usage: kill [-s sigspec | -signum | -sigspec] [pid | job]... or\n" ++
    "kill -l [exitstatus]")

def killList (st : State) (args : List Text) : State :=
  let name := say "kill"
  match args with
  | [] =>
    print st name (['0', '\n'] ++ unlines ((List.range 64).map fun i => signalName (i + 1))) 0
  | operand :: _ =>
    let n := (natural? operand).getD 0
    let n := if 128 < n then n - 128 else n
    if 0 < n && n ≤ 64 then print st name (signalName n ++ ['\n']) 0
    else refuse st name (say "invalid signal number or exit status: " ++ operand)

def kill (st : State) (args : List Text) : State :=
  let name := say "kill"
  let send (signal : Nat) (operands : List Text) : State :=
    if operands.isEmpty then refuse st name killUsage else sendAll st signal operands
  match args with
  | ['-', 'l'] :: rest => killList st rest
  | ['-', '-'] :: operands => send 15 operands
  | ['-', 's'] :: signal :: operands =>
    match signal? signal with
    | some n => send n operands
    | none => refuse st name (say "invalid signal number or name: " ++ signal)
  | ('-' :: signal) :: operands =>
    match signal? signal with
    | some n => send n operands
    | none => refuse st name (say "Illegal option -" ++ signal.take 1)
  | operands => send 15 operands

def quit (st : State) (args : List Text) : State :=
  match args with
  | [] => { st with flow := .quit, status := st.saved.getD st.status }
  | text :: _ =>
    match natural? text with
    | some n => { st with flow := .quit, status := n }
    | none => refuse st (say "exit") (illegalNumber text)

def goBack (st : State) (args : List Text) : State :=
  match args with
  | [] => { st with flow := .back }
  | text :: _ =>
    match natural? text with
    | some n => { st with flow := .back, status := n }
    | none => refuse st (say "return") (illegalNumber text)

/-- A path from the root without single and double dots. -/
def normalized (path : Text) : Text :=
  let parts := (path.splitOn '/').foldl (fun (parts : List Text) part =>
    if part.isEmpty || part = ['.'] then parts
    else if part = ['.', '.'] then parts.dropLast
    else parts ++ [part]) []
  '/' :: ['/'].intercalate parts

/-- The directory in which the shell is, by the name under which it went there. -/
def directory (st : State) : Text :=
  match st.get? "PWD".toList with
  | some path =>
    if path.head? = some '/' &&
        (st.files.resolve st.current (toBytes path)).toOption = some st.current then path
    else Program.placeText st.current
  | none => Program.placeText st.current

def changeDirectory (st : State) (args : List Text) : State :=
  let name := say "cd"
  let args := args.dropWhile fun a => a = ['-', 'P'] || a = ['-', 'L'] || a = ['-', '-']
  let goesBack := args.head? = some ['-']
  let operand := match args with
    | [] => (st.get? "HOME".toList).getD []
    | ['-'] :: _ => (st.get? "OLDPWD".toList).getD (directory st)
    | operand :: _ => operand
  let path := if operand.head? = some '/' then operand else directory st ++ '/' :: operand
  let path := normalized path
  let cannot := refuse st name (say "can't cd to " ++ operand)
  if operand.isEmpty then succeed st 0
  else
    match st.files.resolve st.current (toBytes path) with
    | .ok place =>
      if st.files.isDirectory [] (toBytes path) then
        let before := directory st
        let st := { st with current := place }
        let st := (st.set "OLDPWD".toList before).publish "OLDPWD".toList
        let st := (st.set "PWD".toList path).publish "PWD".toList
        if goesBack then print st name (path ++ ['\n']) 0 else succeed st 0
      else cannot
    | .error _ => cannot

def test (st : State) (name : Text) (args : List Text) : State :=
  match Condition.status ⟨st.files, st.current⟩ args with
  | (status, none) => succeed st status
  | (_, some message) => refuse st name message

/-- An assignment in an argument. -/
def splitAssignment (arg : Text) : Text × Option Text :=
  let name := arg.takeWhile (· != '=')
  (name, if name.length < arg.length then some (arg.drop (name.length + 1)) else none)

/-- What is shown of variables, in a form that can be read again. -/
def listing (st : State) (word : String) (isShown : Variable → Bool) : Text :=
  st.bindings.entries.flatMap fun (name, v) =>
    if isShown v then
      say word ++ name ++ (match v.value with
        | some value => '=' :: quoted value
        | none => []) ++ ['\n']
    else []

/-- Marks variables, assigning those that have a value. -/
def mark (st : State) (name : Text) (args : List Text) (change : Variable → Variable) : State :=
  args.foldl (fun st arg =>
    let (target, value) := splitAssignment arg
    if !st.isRunning then st
    else if !isName target then refuse st name (target ++ say ": bad variable name")
    else
      let st := match value with
        | some value => st.assign target value
        | none => st
      if st.isRunning then st.bind target (change (st.variableOf target)) else st) (succeed st 0)

def exportAll (st : State) (args : List Text) : State :=
  let name := say "export"
  match args.filter (· != ['-', 'p']) with
  | [] => print st name (listing st "export " (·.isExported)) 0
  | args => mark st name args fun v => { v with isExported := true }

def fix (st : State) (args : List Text) : State :=
  let name := say "readonly"
  match args.filter (· != ['-', 'p']) with
  | [] => print st name (listing st "readonly " (·.isFixed)) 0
  | args => mark st name args fun v => { v with isFixed := true }

def unset (st : State) (args : List Text) : State :=
  match args with
  | ['-', 'f'] :: names =>
    succeed { st with functions := st.functions.filter fun f => !names.contains f.1 } 0
  | args =>
    (args.filter (· != ['-', 'v'])).foldl (fun st name =>
      if !st.isRunning then st
      else if st.isFixed name then refuse st (say "unset") (name ++ say ": is read only")
      else st.unset name) (succeed st 0)

/-- Names that have a meaning of their own in the running function. -/
def localize (st : State) (args : List Text) : State :=
  args.foldl (fun st arg =>
    let (name, value) := splitAssignment arg
    match st.locals with
    | none => { refuse st (say "local") (say "not in a function") with flow := .quit }
    | some locals =>
      let locals := if locals.any (·.1 = name) then locals
        else (name, st.bindings.find? name) :: locals
      let st := { st with locals := some locals }
      match value with
      | some value => st.assign name value
      | none => st) (succeed st 0)

def shift (st : State) (args : List Text) : State :=
  let name := say "shift"
  match args with
  | [] =>
    if st.args.isEmpty then refuse st name (say "can't shift that many")
    else succeed { st with args := st.args.drop 1 } 0
  | text :: _ =>
    match natural? text with
    | none => refuse st name (illegalNumber text)
    | some n =>
      if st.args.length < n then refuse st name (say "can't shift that many")
      else succeed { st with args := st.args.drop n } 0

/-- The letters of options, in the order in which they are shown, and their names. -/
def optionNames : List (Char × String) :=
  [('e', "errexit"), ('f', "noglob"), ('I', "ignoreeof"), ('i', "interactive"), ('m', "monitor"),
   ('n', "noexec"), ('s', "stdin"), ('x', "xtrace"), ('v', "verbose"), ('V', "vi"), ('E', "emacs"),
   ('C', "noclobber"), ('a', "allexport"), ('b', "notify"), ('u', "nounset"), ('l', "nolog"),
   ('d', "debug")]

def setOption (options : List Char) (letter : Char) (isOn : Bool) : List Char :=
  let others := options.filter (· != letter)
  if isOn then (optionNames.map (·.1)).filter fun c => c = letter || others.contains c else others

/-- Sets options by their letters; an unknown one is given back. -/
def setLetters (options : List Char) (isOn : Bool) : Text → Except Char (List Char)
  | [] => .ok options
  | c :: rest =>
    if (optionNames.map (·.1)).contains c then setLetters (setOption options c isOn) isOn rest
    else .error c

def optionState (st : State) (isScript : Bool) : Text :=
  if isScript then
    optionNames.flatMap fun (letter, name) =>
      say (if st.hasOption letter then "set -o " else "set +o ") ++ say name ++ ['\n']
  else
    say "Current option settings\n" ++ optionNames.flatMap fun (letter, name) =>
      say name ++ List.replicate (16 - name.length) ' ' ++
        say (if st.hasOption letter then "on\n" else "off\n")

/-- Reads options in front of arguments. -/
def setOptions : Nat → State → List Text → State
  | 0, st, _ => st
  | _, st, [] => succeed st 0
  | fuel + 1, st, arg :: rest =>
    let name := say "set"
    match arg with
    | ['-', '-'] => succeed { st with args := rest } 0
    | ['-'] => succeed { st with args := if rest.isEmpty then st.args else rest
                                 options := setOption (setOption st.options 'x' false) 'v' false } 0
    | [sign, 'o'] =>
      if sign = '-' || sign = '+' then
        match rest with
        | [] => print st name (optionState st (sign = '+')) 0
        | option :: rest =>
          match optionNames.find? fun (_, n) => n.toList = option with
          | some (letter, _) =>
            setOptions fuel { st with options := setOption st.options letter (sign = '-') } rest
          | none =>
            refuse st name (say ("Illegal option " ++ String.ofList [sign]) ++ say "o " ++ option)
      else succeed { st with args := arg :: rest } 0
    | sign :: letters =>
      if sign = '-' || sign = '+' then
        match setLetters st.options (sign = '-') letters with
        | .ok options => setOptions fuel { st with options := options } rest
        | .error c => refuse st name (say "Illegal option " ++ [sign, c])
      else succeed { st with args := arg :: rest } 0
    | [] => succeed { st with args := arg :: rest } 0

def set (st : State) (args : List Text) : State :=
  if args.isEmpty then print st (say "set") (listing st "" fun v => v.value.isSome) 0
  else setOptions (args.length + 1) st args

/-- Leaves loops, or goes on with their next round. -/
def leaveLoops (st : State) (name : Text) (args : List Text) (flow : Nat → Flow) : State :=
  match args.head?.map natural? with
  | some none => refuse st name (illegalNumber (args.headD []))
  | n =>
    let depth := min ((n.bind id).getD 1) st.loops
    if depth = 0 then succeed st 0 else succeed { st with flow := flow depth } 0

def trapListing (st : State) : Text :=
  (List.range 65).flatMap fun signal =>
    match st.traps.lookup signal with
    | some action => say "trap -- " ++ quoted action ++ ' ' :: signalName signal ++ ['\n']
    | none => []

def trap (st : State) (args : List Text) : State :=
  let args := if args.head? = some ['-', '-'] then args.drop 1 else args
  match args with
  | [] => print st (say "trap") (trapListing st) 0
  | first :: rest =>
    let (action, signals) := match rest with
      | [] => (none, [first])
      | rest => (if first = ['-'] then none else some first, rest)
    signals.foldl (fun (st : State) signal =>
      if st.status != 0 then st
      else
        match signal? signal with
        | none =>
          succeed (st.write 2 (say "trap: " ++ signal ++ say ": bad trap\n")).1 1
        | some n =>
          let others := st.traps.filter (·.1 != n)
          { st with traps := match action with
            | some action => (n, action) :: others
            | none => others }) (succeed st 0)

/-- When the first of the signals comes that the process minds, while it waits
until a time. -/
def interruption? (st : State) (time : Nat) : Option (Nat × Nat) :=
  let minded := st.deliveries.zipIdx.filter fun (d, i) =>
    d.process = st.process && d.time ≤ time && !st.attended.contains i &&
      st.traps.lookup d.signal != some []
  match minded with
  | [] => none
  | (d, _) :: rest =>
    let first := rest.foldl (fun (a : Delivery) (e, _) => if e.time < a.time then e else a) d
    some (first.time, first.signal)

/-- Waits until a time, unless a signal comes. -/
def waitFor (st : State) (time status : Nat) : State :=
  match interruption? st time with
  | some (moment, signal) => succeed (st.waitUntil moment) (128 + signal)
  | none => succeed (st.waitUntil time) status

def wait (st : State) (args : List Text) : State :=
  let mine := st.jobs.filter (·.parent = st.process)
  match args with
  | [] => waitFor st (mine.foldl (fun t j => max t j.ended) 0) 0
  | args =>
    args.foldl (fun st arg =>
      let job := match arg with
        | '%' :: n => mine[Format.number n - 1]?
        | arg => mine.find? fun j => decimal j.process = arg
      match job with
      | some job => waitFor st job.ended job.exit.reported
      | none =>
        if (natural? arg).isNone && arg.head? != some '%' then
          refuse st (say "wait") (illegalNumber arg)
        else succeed st 127) (succeed st 0)

/-- What a command name stands for. -/
inductive Meaning where
  | word
  | function
  | builtin
  | file (path : Text)
  | nothing

def meaning (st : State) (name : Text) : Meaning :=
  if reservedWords.contains (String.ofList name) then .word
  else if (st.functions.lookup name).isSome then .function
  else if isBuiltin name then .builtin
  else
    match Lookup.find st.files st.current ((st.get? "PATH".toList).map toBytes) (toBytes name) with
    | .ok found => .file (ofBytes found.path)
    | .error _ => .nothing

/-- What `command -v` says. -/
def locate (st : State) (name : Text) : State :=
  let printer := say "command"
  match meaning st name with
  | .nothing => succeed st 127
  | .file path => print st printer (path ++ ['\n']) 0
  | _ => print st printer (name ++ ['\n']) 0

def describe (st : State) (args : List Text) : State :=
  args.foldl (fun st name =>
    let before := st.status
    let (text, status) := match meaning st name with
      | .word => (say " is a shell keyword", before)
      | .function => (say " is a shell function", before)
      | .builtin =>
        (say (if isSpecial name then " is a special shell builtin" else " is a shell builtin"),
          before)
      | .file path => (say " is " ++ path, before)
      | .nothing => (say ": not found", 127)
    print st (say "type") (name ++ text ++ ['\n']) status) (succeed st 0)

/-- The next option of the arguments, given to a variable. -/
def readOption (st : State) (args : List Text) : State :=
  match args with
  | letters :: target :: rest =>
    let words := if rest.isEmpty then st.args else rest
    let index := Format.number ((st.get? "OPTIND".toList).getD ['1'])
    let offset := if st.optionOffset = 0 then 1 else st.optionOffset
    let isSilent := letters.head? = some ':'
    let finish (st : State) (value : Text) (index offset status : Nat) : State :=
      let st := (st.assign target value).set "OPTIND".toList (decimal index)
      succeed { st with optionOffset := offset } status
    let word := (words[index - 1]?).getD []
    if word = ['-', '-'] then finish st ['?'] (index + 1) 0 1
    else
      match word with
      | '-' :: first :: more =>
        let options := first :: more
        let letter := (options[offset - 1]?).getD first
        let isLast := options.length ≤ offset
        let (nextIndex, nextOffset) := if isLast then (index + 1, 0) else (index, offset + 1)
        match letters.idxOf? letter with
        | some i =>
          if letters[i + 1]? = some ':' then
            if !isLast then
              finish (st.set "OPTARG".toList (options.drop offset)) [letter] (index + 1) 0 0
            else
              match words[index]? with
              | some value =>
                finish (st.set "OPTARG".toList value) [letter] (index + 2) 0 0
              | none =>
                if isSilent then finish (st.set "OPTARG".toList [letter]) [':'] (index + 1) 0 0
                else
                  let st := (st.write 2 (say "No arg for -" ++ [letter] ++ say " option\n")).1
                  finish (st.unset "OPTARG".toList) ['?'] (index + 1) 0 0
          else finish (st.unset "OPTARG".toList) [letter] nextIndex nextOffset 0
        | none =>
          if isSilent then finish (st.set "OPTARG".toList [letter]) ['?'] nextIndex nextOffset 0
          else
            let st := (st.write 2 (say "Illegal option -" ++ [letter] ++ ['\n'])).1
            finish (st.unset "OPTARG".toList) ['?'] nextIndex nextOffset 0
      | _ => finish st ['?'] index 0 1
  | _ => refuse st (say "getopts") (say "Usage: getopts optstring var [arg]")

/-- Texts that are numbers in front, where numbers were due. -/
def refusedNumbers (st : State) (texts : List Text) : State :=
  texts.foldl (fun st t => st.complain (say "printf: " ++ t ++ say ": expected numeric value")) st

def printf (st : State) (args : List Text) : State :=
  let name := say "printf"
  let args := if args.head? = some ['-', '-'] then args.drop 1 else args
  match args with
  | [] => refuse st name (say "usage: printf format [arg ...]")
  | format :: args =>
    let (text, refused) := Format.printf format args
    let st := print (refusedNumbers st refused) name text (if refused.isEmpty then 0 else 1)
    st

/-- Reads the options of `read`: whether the line is raw, and a text to show first. -/
def readOptions : List Text → Bool × Text × List Text
  | ['-', 'r'] :: rest =>
    let (_, shown, names) := readOptions rest
    (true, shown, names)
  | ['-', 'p'] :: text :: rest =>
    let (isRaw, _, names) := readOptions rest
    (isRaw, text, names)
  | ['-', '-'] :: rest => (false, [], rest)
  | names => (false, [], names)

def read (st : State) (args : List Text) : State :=
  let (isRaw, _, names) := readOptions args
  if names.isEmpty then refuse st (say "read") (say "arg count") else Input.read st isRaw names

def noTime : Text := say "0m0.000000s 0m0.000000s\n"

/-- Runs a command of the shell by its name, if it is one. -/
def run (st : State) (name : Text) (args : List Text) : Option State :=
  match String.ofList name with
  | ":" => some (succeed st 0)
  | "true" => some (succeed st 0)
  | "false" => some (succeed st 1)
  | "echo" => some (print st name (Format.echo args) 0)
  | "printf" => some (printf st args)
  | "read" => some (read st args)
  | "kill" => some (kill st args)
  | "exit" => some (quit st args)
  | "return" => some (goBack st args)
  | "cd" => some (changeDirectory st args)
  | "pwd" => some (print st name (directory st ++ ['\n']) 0)
  | "test" => some (test st name args)
  | "[" =>
    if args.getLast? = some [']'] then some (test st name args.dropLast)
    else some (refuse st name (say "missing ]"))
  | "export" => some (exportAll st args)
  | "readonly" => some (fix st args)
  | "local" => some (localize st args)
  | "unset" => some (unset st args)
  | "shift" => some (shift st args)
  | "set" => some (set st args)
  | "break" => some (leaveLoops st name args .leaveLoop)
  | "continue" => some (leaveLoops st name args .nextRound)
  | "wait" => some (wait st args)
  | "trap" => some (trap st args)
  | "getopts" => some (readOption st args)
  | "type" => some (describe st args)
  | "umask" => some (if args.isEmpty then print st name (say "0022\n") 0 else succeed st 0)
  | "ulimit" => some (if args.isEmpty then print st name (say "unlimited\n") 0 else succeed st 0)
  | "times" => some (print st name (noTime ++ noTime) 0)
  | "hash" => some (succeed st 0)
  | "alias" => some (succeed st 0)
  | "unalias" => some (succeed st 0)
  | "jobs" => some (succeed st 0)
  | "fg" => some (refuse st name (say "No current job"))
  | "bg" => some (refuse st name (say "No current job"))
  | _ => none

end XmlSupport.Shell.Builtin
