import XmlSupport.Shell.Arithmetic
import XmlSupport.Shell.Builtin
import XmlSupport.Shell.Field
import XmlSupport.Shell.Glob
import XmlSupport.Shell.Redirect

/-!
# Running scripts

Commands run one after the other on the state of a shell. A process that is
started is followed to its end before the shell goes on, with a time of its own.
The fuel bounds how deep a run may nest and how often a loop may go round; a
script that uses it up is ended.
-/

namespace XmlSupport.Shell

open Machine

/-- How a command is run. -/
structure Mode where
  /-- Whether its failure is looked at, so that it does not end the shell. -/
  isTested : Bool
  /-- Whether nothing follows it in its process. -/
  isLast : Bool
  deriving DecidableEq, Repr

namespace Mode

/-- The first thing that a process does, and the last. -/
def whole : Mode := ⟨false, true⟩

def part : Mode := ⟨false, false⟩

def condition : Mode := ⟨true, false⟩

def inner (mode : Mode) : Mode := { mode with isLast := false }

end Mode

def isPresent (emptyToo : Bool) : Option Text → Bool
  | none => false
  | some v => !(emptyToo && v.isEmpty)

/-- A script that uses up its fuel. -/
def State.exhausted (st : State) : State := { st with flow := .quit, status := 2 }

/-- The home directory that a tilde stands for, in front of a word or of a
part of an assigned list. -/
def expandTilde (st : State) (isAssigned : Bool) (isFront : Bool) : Word → List Piece
  | [] => []
  | .plain '~' :: rest =>
    let endsHere := match rest with
      | [] => true
      | .plain '/' :: _ => true
      | .plain ':' :: _ => isAssigned
      | _ => false
    match isFront && endsHere, st.get? "HOME".toList with
    | true, some home => home.map Piece.quoted ++ expandTilde st isAssigned false rest
    | _, _ => .plain '~' :: expandTilde st isAssigned false rest
  | piece :: rest =>
    let isColon := match piece with
      | .plain ':' => isAssigned
      | _ => false
    piece :: expandTilde st isAssigned isColon rest

/-- Lets a program take of its input what it wants. -/
def State.takeInput (st : State) (taken : Option Nat) : State :=
  match taken, st.opening? 0 with
  | some 0, _ => st
  | some n, some opening =>
    let (world, time) := st.take opening n
    { st with toWorld := world }.waitUntil time
  | none, some opening =>
    let (world, time) := st.drain opening
    { st with toWorld := world }.waitUntil time
  | _, none => st

/-- Writes the output of a program. -/
def State.writeOutput (st : State) (name : String) (text : Text) : State :=
  match st.write 1 text with
  | (st, none) => st
  | (st, some fault) =>
    if st.isRunning then
      { (st.write 2 (say (name ++ ": write error: " ++ fault.text ++ "\n"))).1 with status := 1 }
    else st

/-- Hands what comes through a channel on as it comes. -/
def State.handOn (st : State) (name : String) (index : Nat) : State :=
  match st.channels[index]? with
  | none => st
  | some c => c.chunks.reverse.foldl (fun st chunk =>
      if st.isRunning then (st.waitUntil chunk.time).writeOutput name chunk.text else st) st

/-- The channel that a program reads. -/
def State.inputChannel? (st : State) : Option Nat :=
  match (st.opening? 0).bind st.stream? with
  | some (.channel i) => some i
  | _ => none

def State.inputText (st : State) : Text := ((st.opening? 0).bind st.text?).getD []

def State.isInputSeekable (st : State) : Bool :=
  match (st.opening? 0).bind st.stream? with
  | some (.file _ _ _) => true
  | _ => false

/-- Runs a program that starts no others. -/
def State.runProgram (st : State) (program : String) (name : String) (args : List Text) : State :=
  let call : Program.Call :=
    ⟨st.files, st.current, st.environment, st.inputText, st.isInputSeekable, args⟩
  match Program.run program call with
  | none => { st with status := 127 }
  | some effect =>
    let st := { st with status := effect.status, files := effect.files.getD st.files }
    match program, args, st.inputChannel? with
    | "cat", [], some index => (st.handOn name index).takeInput none
    | _, _, _ =>
      let st := (st.takeInput effect.taken).pass effect.duration
      let st := st.writeOutput name effect.output
      if st.isRunning then (st.write 2 effect.errors).1 else st

/-- A program has forgotten the actions of the shell; what was ignored still is. -/
def State.load (st : State) : State :=
  { st with traps := st.traps.filter fun t => t.2.isEmpty }.pass State.loadTime

/-- Ends a program that got a signal while it ran. -/
def State.strike : Nat → State → State
  | 0, st => st
  | fuel + 1, st =>
    match st.pending? st.clock with
    | none => st
    | some (i, d) =>
      let st := { st with attended := i :: st.attended }
      if st.traps.lookup d.signal = some [] || Signal.isIgnored d.signal then st.strike fuel
      else { st with flow := .killed d.signal, clock := d.time }

/-- Takes the settings in front of a command out of the arguments of `env`. -/
def takeSettings (st : State) : List Text → State × List Text
  | [] => (st, [])
  | a :: rest =>
    if a = ['-', 'i'] || a = ['-'] then
      takeSettings { st with bindings := .ofList (st.bindings.entries.map fun (k, v) =>
        (k, { v with isExported := false })) } rest
    else if a.contains '=' then
      let (name, value) := Builtin.splitAssignment a
      takeSettings ((st.set name (value.getD [])).publish name) rest
    else (st, a :: rest)

/-- The options and the script of a shell, from its arguments. -/
structure Invocation where
  options : List Char
  /-- The script itself is among the arguments. -/
  isCommand : Bool
  operands : List Text

/-- Reads options in front of the operands of a shell; an unknown one is given back. -/
def readInvocation : Nat → Invocation → List Text → Except Text Invocation
  | 0, i, args => .ok { i with operands := args }
  | _, i, [] => .ok i
  | fuel + 1, i, arg :: rest =>
    match arg with
    | ['-', '-'] => .ok { i with operands := rest }
    | ['-'] => .ok { i with operands := rest }
    | ['-', 'o'] =>
      match Builtin.optionNames.find? fun (_, n) => some n.toList = rest.head? with
      | some (letter, _) =>
        readInvocation fuel { i with options := Builtin.setOption i.options letter true }
          (rest.drop 1)
      | none => .error (say "Illegal option -o " ++ rest.headD [])
    | '-' :: letters =>
      let isCommand := i.isCommand || letters.contains 'c'
      let letters := letters.filter fun c => c != 'c' && c != 'l'
      match Builtin.setLetters i.options true letters with
      | .ok options =>
        readInvocation fuel { i with options := options, isCommand := isCommand } rest
      | .error c => .error (say "Illegal option -" ++ [c])
    | '+' :: letters =>
      match Builtin.setLetters i.options false letters with
      | .ok options => readInvocation fuel { i with options := options } rest
      | .error c => .error (say "Illegal option +" ++ [c])
    | arg => .ok { i with operands := arg :: rest }

/-- A script, the name and the arguments it runs under. -/
structure Script where
  options : List Char
  text : Text
  name : Text
  args : List Text
  /-- Whether its last command may take the place of the shell. -/
  isCommand : Bool
  takesInput : Bool

/-- The script that a shell runs, or why there is none. -/
def scriptOf (st : State) (name : Text) (args : List Text) : Except (Text × Nat) Script :=
  match readInvocation (args.length + 1) ⟨[], false, []⟩ args with
  | .error message => .error (message, 2)
  | .ok i =>
    if i.isCommand then
      match i.operands with
      | script :: rest => .ok ⟨i.options, script, rest.headD name, rest.drop 1, true, false⟩
      | [] => .error (say "-c requires an argument", 2)
    else
      match i.operands with
      | [] => .ok ⟨Builtin.setOption i.options 's' true, st.inputText, name, [], false, true⟩
      | file :: rest =>
        if i.options.contains 's' then
          .ok ⟨i.options, st.inputText, name, file :: rest, false, true⟩
        else
          match st.files.read st.current (toBytes file) with
          | .ok content => .ok ⟨i.options, ofBytes content, file, rest, false, false⟩
          | .error fault =>
            .error
              (say "cannot open " ++ file ++ say (": " ++ Redirect.reason "No such file" fault), 2)

/-- Where a shell looks for programs that has not been told. -/
def shellPath : Text := "/usr/local/sbin:/usr/local/bin:/usr/sbin:/usr/bin:/sbin:/bin".toList

/-- The variables with which a shell begins: those of its environment, the
directory it is in, and some of its own. -/
def initialBindings (st : State) : SortedMap Text Variable :=
  let own : List (Text × Variable) :=
    [("IFS".toList, ⟨some [' ', '\t', '\n'], false, false⟩),
     ("OPTIND".toList, ⟨some ['1'], false, false⟩),
     ("PATH".toList, ⟨some shellPath, false, false⟩),
     ("PPID".toList, ⟨some (decimal (st.root - 1)), false, false⟩),
     ("PS1".toList, ⟨some ['#', ' '], false, false⟩),
     ("PS2".toList, ⟨some ['>', ' '], false, false⟩),
     ("PS4".toList, ⟨some ['+', ' '], false, false⟩)]
  let taken := st.bindings.entries.filter fun (name, v) =>
    v.isExported && name != "IFS".toList && name != "OPTIND".toList && name != "PPID".toList
  let taken := taken.map fun (name, v) => (name, { v with isFixed := false })
  .ofList (own ++ taken ++
    [("PWD".toList, ⟨some (Builtin.directory st), true, false⟩)])

/-- The words of a text that are separated by blanks. -/
def wordsOf (text : Text) : List Text :=
  (text.splitOnP fun c => c = ' ' || c = '\t' || c = '\n').filter fun w => !w.isEmpty

/-- Two commands are joined to a pipe by a channel that holds a limited text at
first; only a reader that wants more makes the writer go on. -/
def rooms : List (Option Nat) := [some 4096, some 131072, none]

/-- Later than any time. -/
def never : Nat := 1000000000000000000

mutual

/-- Attends to signals: those that the shell minds are answered by their
actions, the others end it. -/
def attend : Nat → State → State
  | 0, st => st
  | fuel + 1, st =>
    let st := st.settle
    match st.pending? st.clock with
    | none => st
    | some (i, d) =>
      let st := { st with attended := i :: st.attended }
      if d.signal = 9 then { st with flow := .killed d.signal, clock := d.time }
      else
        match st.traps.lookup d.signal with
        | some [] => attend fuel st
        | some action =>
          let after := runScript fuel Mode.part action
            { st with saved := some st.status, flow := .next }
          if after.isRunning then
            attend fuel { after with status := st.status, flow := st.flow, saved := st.saved }
          else after
        | none =>
          if Signal.isIgnored d.signal then attend fuel st
          else { st with flow := .killed d.signal, clock := d.time }

/-- Ends a shell: the action for its end runs, which may change its status. -/
def finish : Nat → State → State
  | 0, st => st
  | fuel + 1, st =>
    match st.flow, st.traps.lookup 0 with
    | .killed _, _ => st
    | _, none => st
    | _, some [] => st
    | _, some action =>
      let after := runScript fuel Mode.part action
        { st with
          flow := .next, saved := some st.status, loops := 0
          traps := st.traps.filter fun t => t.1 != 0 }
      match after.flow with
      | .killed _ => after
      | .quit => after
      | _ => { after with status := st.status, flow := .quit }

def expandPiece : Nat → State → Piece → State × List Fragment
  | 0, st, _ => (st.exhausted, [])
  | fuel + 1, st, piece =>
    let missing (name : Text) : State × List Fragment :=
      (st.fail (name ++ say ": parameter not set"), [])
    let isUnset (name : Text) : Bool :=
      st.hasOption 'u' && (st.parameter? name).isNone && name != ['@'] && name != ['*']
    match piece with
    | .plain c => (st, [.plain c])
    | .quoted c => (st, [.quoted c])
    | .quoteMark => (st, [.mark])
    | .badExpansion => (st.fail (say "Bad substitution"), [])
    | .parameter name isQuoted =>
      if isUnset name then missing name
      else if name = ['@'] || (name = ['*'] && !isQuoted) then
        (st, Fragment.ofArguments isQuoted st.args)
      else (st, Fragment.ofText isQuoted ((st.parameter? name).getD []))
    | .parameterLength name isQuoted =>
      if isUnset name then missing name
      else if name = ['@'] || name = ['*'] then
        (st, Fragment.ofText isQuoted (decimal st.args.length))
      else (st, Fragment.ofText isQuoted (decimal ((st.parameter? name).getD []).length))
    | .parameterOr name emptyToo fallback word isQuoted =>
      let value := st.parameter? name
      match fallback, isPresent emptyToo value with
      | .replace, false => (st, [])
      | .replace, true => expandWord fuel st word
      | .use, false => expandWord fuel st word
      | .assign, false =>
        let (st, text) := expandText fuel st false word
        (if st.isRunning then st.assign name text else st, Fragment.ofText isQuoted text)
      | .complain, false =>
        let (st, text) := expandText fuel st false word
        let message := if word.isEmpty then say "parameter not set" else text
        (if st.isRunning then st.fail (name ++ say ": " ++ message) else st, [])
      | _, true =>
        if name = ['@'] || (name = ['*'] && !isQuoted) then
          (st, Fragment.ofArguments isQuoted st.args)
        else (st, Fragment.ofText isQuoted (value.getD []))
    | .parameterTrimmed name trim pattern isQuoted =>
      if isUnset name then missing name
      else
        let (st, fragments) := expandWord fuel st pattern
        let pattern := Fragment.symbols fragments
        let value := (st.parameter? name).getD []
        let trimmed := if trim.fromFront then Wildcard.trimFront trim.takesMost pattern value
          else Wildcard.trimBack trim.takesMost pattern value
        (st, Fragment.ofText isQuoted trimmed)
    | .substitution body isQuoted =>
      let (world, index, _, writing) := st.openChannel .patient
      let inner := Redirect.bind { st with toWorld := world }.fork 1 writing
      let inner := finish fuel (run fuel Mode.whole body { inner with status := 0 })
      let after := st.resume inner
      let closed := ((after.channels[index]?).map fun c => max c.closed c.lastWrite).getD 0
      let text := (trimLineEnds (after.channelText index)).filter (· != '\x00')
      (attend fuel ({ after with substituted := after.status }.waitUntil closed),
        Fragment.ofText isQuoted text)
    | .arithmetic expression isQuoted =>
      let (st, fragments) := expandWord fuel st expression
      let text := Fragment.join fragments
      let lookUp (name : Text) : Text := (st.get? name).getD []
      match Arithmetic.read text >>= fun e => Arithmetic.evaluate lookUp e [] with
      | .ok (n, assigned) =>
        (assigned.reverse.foldl (fun st (name, n) => st.assign name (integerText n)) st,
          Fragment.ofText isQuoted (integerText n))
      | .error fault => (st.fail (fault.message text), [])

def expandWord : Nat → State → Word → State × List Fragment
  | 0, st, _ => (st.exhausted, [])
  | fuel + 1, st, word =>
    word.foldl (fun (st, fragments) piece =>
      if !st.isRunning then (st, fragments)
      else
        let (st, more) := expandPiece fuel st piece
        (st, fragments ++ more)) (st, [])

/-- The fields of several words, patterns among them replaced by names of files. -/
def expandWords : Nat → State → List Word → State × List Text
  | 0, st, _ => (st.exhausted, [])
  | fuel + 1, st, words =>
    words.foldl (fun (st, fields) word =>
      if !st.isRunning then (st, fields)
      else
        let (st, fragments) := expandWord fuel st (expandTilde st false true word)
        let found := Fragment.fields st.separators fragments
        let texts := if st.hasOption 'f' then found.map Symbol.texts
          else found.flatMap (Glob.expand st.files st.current)
        (st, fields ++ texts)) (st, [])

/-- The text of a word that is not split. -/
def expandText : Nat → State → Bool → Word → State × Text
  | 0, st, _, _ => (st.exhausted, [])
  | fuel + 1, st, isAssigned, word =>
    let (st, fragments) := expandWord fuel st (expandTilde st isAssigned true word)
    (st, Fragment.join fragments)

/-- Assigns variables, and tells what was assigned. -/
def assignAll : Nat → State → List (Text × Word) → State × List (Text × Text)
  | 0, st, _ => (st.exhausted, [])
  | fuel + 1, st, assignments =>
    assignments.foldl (fun (st, assigned) (name, word) =>
      if !st.isRunning then (st, assigned)
      else
        let (st, text) := expandText fuel st true word
        (if st.isRunning then st.assign name text else st, assigned ++ [(name, text)])) (st, [])

/-- Applies redirections in order; the flag tells whether all could be. -/
def redirectAll : Nat → State → List Redirection → State × Bool
  | 0, st, _ => (st.exhausted, false)
  | fuel + 1, st, redirections =>
    redirections.foldl (fun (st, isFine) r =>
      if !isFine then (st, false)
      else
        let (st, target) := expandText fuel st false r.target
        if !st.isRunning then (st, false)
        else
          match Redirect.apply st r.descriptor r.direction target with
          | .ok st => (st, true)
          | .error .notANumber => (st.fail Redirect.RedirectFault.notANumber.message, false)
          | .error fault => ({ st.complain fault.message with status := 2 }, false)) (st, true)

/-- Runs a command and then attends to signals. A failure that nobody looks at
ends a shell that has been told so. -/
def run : Nat → Mode → Command → State → State
  | 0, _, _, st => st.exhausted
  | fuel + 1, mode, command, st =>
    if !st.isRunning then st
    else
      let after := runCommand fuel mode command st
      let after := match after.flow with
        | .quit => after
        | .killed _ => after
        | _ => attend fuel after
      let isChecked := match command with
        | .simple _ _ _ _ => true
        | .pipe _ _ => true
        | .subshell _ _ => true
        | _ => false
      if isChecked && !mode.isTested && after.hasOption 'e' && after.isRunning &&
          after.status != 0 then
        { after with flow := .quit }
      else after

def runCommand : Nat → Mode → Command → State → State
  | 0, _, _, st => st.exhausted
  | fuel + 1, mode, command, st =>
    match command with
    | .skip => st
    | .simple line assignments words redirections =>
      runSimple fuel mode assignments words redirections { st with line := line, substituted := 0 }
    | .pipe first second => runPipe fuel mode first second rooms st
    | .negate command =>
      let st := run fuel Mode.condition command st
      if st.isRunning then { st with status := if st.status = 0 then 1 else 0 } else st
    | .both first second =>
      let st := run fuel Mode.condition first st
      if st.status = 0 then run fuel mode second st else st
    | .either first second =>
      let st := run fuel Mode.condition first st
      if st.status = 0 then st else run fuel mode second st
    | .inTurn first second => run fuel mode second (run fuel mode.inner first st)
    | .background line command => runJob fuel command { st with line := line }
    | .subshell line body =>
      let st := { st with line := line }
      if mode.isLast && !st.hasTraps then run fuel mode body st
      else st.resume (finish fuel (run fuel { mode with isLast := true } body st.fork))
    | .redirected line body redirections =>
      let (inner, isFine) := redirectAll fuel { st with line := line } redirections
      let after := if isFine then run fuel mode.inner body inner else inner
      { after with descriptors := st.descriptors }
    | .choose condition consequence alternative =>
      let tested := run fuel Mode.condition condition st
      if tested.isRunning then
        run fuel mode (if tested.status = 0 then consequence else alternative)
          { tested with status := 0 }
      else tested
    | .loop expected condition body =>
      let after := runLoop fuel mode expected condition body 0 { st with loops := st.loops + 1 }
      { after with loops := st.loops }
    | .forEach line name words body =>
      let (st, values) := expandWords fuel { st with line := line } words
      let after := runEach fuel mode name body values
        { st with status := if st.isRunning then 0 else st.status, loops := st.loops + 1 }
      { after with loops := st.loops }
    | .select line word branches =>
      let (st, text) := expandText fuel { st with line := line } false word
      runBranches fuel mode text branches st
    | .define name body =>
      { st with functions := (name, body) :: st.functions.filter (·.1 != name), status := 0 }

/-- Goes round while the condition's success is `expected`; the loop has the
status of its last round. -/
def runLoop : Nat → Mode → Bool → Command → Command → Nat → State → State
  | 0, _, _, _, _, _, st => st.exhausted
  | fuel + 1, mode, expected, condition, body, status, st =>
    let tested := run fuel Mode.condition condition st
    match tested.flow with
    | .next =>
      if (tested.status == 0) != expected then { tested with status := status }
      else
        let st := run fuel mode.inner body tested
        match st.flow with
        | .next => runLoop fuel mode expected condition body st.status st
        | .nextRound (n + 2) => { st with flow := .nextRound (n + 1) }
        | .nextRound _ =>
          runLoop fuel mode expected condition body st.status { st with flow := .next }
        | .leaveLoop (n + 2) => { st with flow := .leaveLoop (n + 1) }
        | .leaveLoop _ => { st with flow := .next }
        | _ => st
    | .nextRound (n + 2) => { tested with flow := .nextRound (n + 1) }
    | .nextRound _ =>
      runLoop fuel mode expected condition body status { tested with flow := .next }
    | .leaveLoop (n + 2) => { tested with flow := .leaveLoop (n + 1) }
    | .leaveLoop _ => { tested with flow := .next, status := status }
    | _ => tested

def runEach : Nat → Mode → Text → Command → List Text → State → State
  | 0, _, _, _, _, st => st.exhausted
  | _, _, _, _, [], st => st
  | fuel + 1, mode, name, body, value :: values, st =>
    if !st.isRunning then st
    else
      let st := run fuel mode.inner body (st.assign name value)
      match st.flow with
      | .next => runEach fuel mode name body values st
      | .nextRound (n + 2) => { st with flow := .nextRound (n + 1) }
      | .nextRound _ => runEach fuel mode name body values { st with flow := .next }
      | .leaveLoop (n + 2) => { st with flow := .leaveLoop (n + 1) }
      | .leaveLoop _ => { st with flow := .next }
      | _ => st

/-- Runs the first branch with a pattern that covers the text. -/
def runBranches : Nat → Mode → Text → List (List Word × Command) → State → State
  | 0, _, _, _, st => st.exhausted
  | _, _, _, [], st => { st with status := if st.isRunning then 0 else st.status }
  | fuel + 1, mode, text, (patterns, body) :: branches, st =>
    let (st, isCovered) := patterns.foldl (fun (st, isCovered) pattern =>
      if isCovered || !st.isRunning then (st, isCovered)
      else
        let (st, fragments) := expandWord fuel st (expandTilde st false true pattern)
        (st, Wildcard.covers (Fragment.symbols fragments) text)) (st, false)
    if !st.isRunning then st
    else if isCovered then
      match body with
      | .skip => { st with status := 0 }
      | body => run fuel mode body st
    else runBranches fuel mode text branches st

/-- Runs two commands with a channel between them. -/
def tryPipe : Nat → Mode → Command → Command → Reader → State → State × Option Channel
  | 0, _, _, _, _, st => (st.exhausted, none)
  | fuel + 1, mode, first, second, reader, st =>
    let (world, index, reading, writing) := st.openChannel reader
    let start := { st with toWorld := world }
    let whole := { mode with isLast := true }
    let left := finish fuel (run fuel whole first (Redirect.bind start.fork 1 writing))
    let between := Redirect.bind { start with toWorld := left.leave } 0 reading
    match second with
    | .pipe second third =>
      let after := runPipe fuel mode second third rooms between
      let st := { st with
        toWorld := after.toWorld, clock := max left.clock after.clock, status := after.status
        flow := after.flow }
      (st, after.channels[index]?)
    | second =>
      let right := finish fuel (run fuel whole second between.fork)
      let after := st.resume right
      (after.waitUntil left.clock, (after.channels[index]?).map fun c =>
        { c with closed := right.clock })

/-- Runs a pipe. The writer is followed without its reader at first; if the
reader has gone before the writer's end, the writer is followed again with that
known. -/
def runPipe : Nat → Mode → Command → Command → List (Option Nat) → State → State
  | 0, _, _, _, _, st => st.exhausted
  | _, _, _, _, [], st => st
  | fuel + 1, mode, first, second, room :: rooms, st =>
    let reader : Reader := match room with
      | some n => .leaving never n
      | none => .patient
    let (after, channel) := tryPipe fuel mode first second reader st
    match channel with
    | none => after
    | some c =>
      if c.isStarved && !rooms.isEmpty then runPipe fuel mode first second rooms st
      else if c.isCut || c.closed < c.lastWrite then
        (tryPipe fuel mode first second (.leaving c.closed (c.taken + channelSize)) st).1
      else after

/-- Starts a background job. -/
def runJob : Nat → Command → State → State
  | 0, _, st => st.exhausted
  | fuel + 1, command, st =>
    let child (world : World) : State :=
      let inner := { st with
        toWorld := world, owners := st.nextProcess :: st.owners, process := st.nextProcess
        traps := (2, []) :: (3, []) :: st.traps.filter fun t => t.2.isEmpty
        clock := st.clock + State.forkTime, attended := [], loops := 0, status := 0 }
      Redirect.bindNew inner 0 ⟨.nowhere, true, true⟩
    let follow (world : World) : World × Nat × Exit :=
      let inner := finish fuel (run fuel Mode.whole command (attend fuel (child world)))
      (inner.leave, inner.clock, inner.exit)
    let (world, ended, exit) := follow { st.toWorld with nextProcess := st.nextProcess + 1 }
    let job : Job := ⟨st.nextProcess, st.process, ended, exit, world.deliveries.length, follow⟩
    { st with
      toWorld := world, jobs := st.jobs ++ [job], lastJob := some st.nextProcess, status := 0 }

/-- Runs a simple command: words are expanded first, then redirections, then assignments. -/
def runSimple : Nat → Mode → List (Text × Word) → List Word → List Redirection → State → State
  | 0, _, _, _, _, st => st.exhausted
  | fuel + 1, mode, assignments, words, redirections, st =>
    let (st, fields) := expandWords fuel st words
    let st := st.pass State.commandTime
    let trace (st : State) (assigned : List (Text × Text)) : State :=
      if st.hasOption 'x' then
        let shown := assigned.map (fun (name, text) => name ++ '=' :: text) ++ fields
        (st.write 2 ((st.get? "PS4".toList).getD [] ++ joinWords shown ++ ['\n'])).1
      else st
    if !st.isRunning then st
    else
      match fields with
      | [] =>
        let (inner, isFine) := redirectAll fuel st redirections
        let inner := { inner with descriptors := st.descriptors }
        if !isFine then inner
        else
          let (after, assigned) := assignAll fuel inner assignments
          if after.isRunning then trace { after with status := after.substituted } assigned
          else after
      | name :: args =>
        let isFunction := (st.functions.lookup name).isSome
        let isSpecial := !isFunction && Builtin.isSpecial name
        let (inner, isFine) := redirectAll fuel st redirections
        if !isFine then
          { inner with
            descriptors := st.descriptors
            flow := if isSpecial && inner.isRunning then .quit else inner.flow }
        else
          let (during, assigned) := assignAll fuel inner assignments
          if !during.isRunning then { during with descriptors := st.descriptors }
          else
            let during := trace during assigned
            let during := if isSpecial then during
              else assignments.foldl (fun st a => st.publish a.1) during
            if !isFunction && name = "exec".toList then
              match args with
              | [] => { during with status := 0 }
              | name :: args => replaceShell fuel name args during
            else
              let after := runNamed fuel mode name args isFunction during
              let after := { after with descriptors := st.descriptors }
              if isSpecial then after
              else assignments.foldl (fun after a =>
                after.restore a.1 (st.bindings.find? a.1)) after

/-- Runs a program in the place of the shell. -/
def replaceShell : Nat → Text → List Text → State → State
  | 0, _, _, st => st.exhausted
  | fuel + 1, name, args, st =>
    match Lookup.find st.files st.current ((st.get? "PATH".toList).map toBytes) (toBytes name) with
    | .ok found => becomeFound fuel found name args st
    | .error fault =>
      let reason := if fault = .notFound then "not found" else fault.text
      { st.complain (say "exec: " ++ name ++ say (": " ++ reason)) with
        status := if fault = .notFound then 127 else 126, flow := .quit }

/-- Runs a function, a command of the shell or a program. -/
def runNamed : Nat → Mode → Text → List Text → Bool → State → State
  | 0, _, _, _, _, st => st.exhausted
  | fuel + 1, mode, name, args, isFunction, st =>
    match isFunction, String.ofList name with
    | true, _ =>
      match st.functions.lookup name with
      | some body => callFunction fuel mode body args st
      | none => st
    | false, "eval" =>
      let text := joinWords args
      if text.isEmpty then { st with status := 0 }
      else
        let after := runScript fuel mode.inner text { st with status := 0 }
        { after with line := st.line }
    | false, "." =>
      match args with
      | [] => { st with status := 0 }
      | path :: _ => runFile fuel mode path st
    | false, "command" =>
      match args with
      | ['-', 'v'] :: name :: _ => Builtin.locate st name
      | ['-', 'V'] :: names => Builtin.describe st names
      | ['-', 'p'] :: name :: args => runNamed fuel mode name args false st
      | name :: args =>
        let after := runNamed fuel mode name args false st
        if Builtin.isSpecial name && after.flow = .quit && after.status = 2 && name != "exit".toList
        then { after with flow := .next } else after
      | [] => { st with status := 0 }
    | false, "exec" =>
      match args with
      | [] => { st with status := 0 }
      | name :: args => replaceShell fuel name args st
    | false, _ =>
      match Builtin.run st name args with
      | some st => st
      | none =>
        let searchPath := (st.get? "PATH".toList).map toBytes
        match Lookup.find st.files st.current searchPath (toBytes name) with
        | .ok found =>
          if mode.isLast && !st.hasTraps then becomeFound fuel found name args st
          else st.resume ((startFound fuel found name args st.fork.load).strike fuel)
        | .error .notFound => { st.complain (name ++ say ": not found") with status := 127 }
        | .error fault => { st.complain (name ++ say (": " ++ fault.text)) with status := 126 }

/-- Runs a found program in the process of the shell. -/
def becomeFound : Nat → Found → Text → List Text → State → State
  | 0, _, _, _, st => st.exhausted
  | fuel + 1, found, name, args, st =>
    let after := (startFound fuel found name args st.load).strike fuel
    match after.flow with
    | .killed _ => after
    | _ => { after with flow := .quit }

def callFunction : Nat → Mode → Command → List Text → State → State
  | 0, _, _, _, st => st.exhausted
  | fuel + 1, mode, body, args, st =>
    let after := run fuel mode.inner body { st with args := args, locals := some [], loops := 0 }
    let restored := (after.locals.getD []).foldl (fun (after : State) (name, v) =>
      after.restore name v) after
    { restored with
      args := st.args, locals := st.locals, loops := st.loops
      flow := if after.flow = .back then .next else after.flow }

/-- Runs the script in a file in the shell itself. -/
def runFile : Nat → Mode → Text → State → State
  | 0, _, _, st => st.exhausted
  | fuel + 1, mode, path, st =>
    let found : Except Text Text :=
      if path.contains '/' then
        match st.files.read st.current (toBytes path) with
        | .ok content => .ok (ofBytes content)
        | .error fault =>
          .error (say "cannot open " ++ path ++ say (": " ++ Redirect.reason "No such file" fault))
      else
        let directories := ((st.get? "PATH".toList).getD []).splitOn ':'
        match directories.findSome? fun d =>
            (st.files.read st.current (Path.join (toBytes d) (toBytes path))).toOption with
        | some content => .ok (ofBytes content)
        | none => .error (path ++ say ": not found")
    match found with
    | .error message => st.fail (say ".: " ++ message)
    | .ok script =>
      let after := runScript fuel mode.inner script { st with status := 0 }
      { after with
        line := st.line
        flow := if after.flow = .back then .next else after.flow }

/-- Reads and runs the lines of a script one after the other. -/
def runScript : Nat → Mode → Text → State → State
  | 0, _, _, st => st.exhausted
  | fuel + 1, mode, script, st => runLines fuel mode (lineCount script) script st

def runLines : Nat → Mode → Nat → Text → State → State
  | 0, _, _, _, st => st.exhausted
  | fuel + 1, mode, count, rest, st =>
    match nextLine count rest with
    | none => st
    | some (.error fault) =>
      { st with line := fault.line }.fail (say "Syntax error: " ++ fault.message)
    | some (.ok (command, behind)) =>
      let isLast := mode.isLast && behind.isEmpty && rest.getLast? != some '\n'
      let st := run fuel { mode with isLast := isLast } command st
      if st.isRunning then runLines fuel mode count behind st else st

/-- Runs a found program in a process that is ready for it. -/
def startFound : Nat → Found → Text → List Text → State → State
  | 0, _, _, _, st => st.exhausted
  | fuel + 1, found, name, args, st =>
    match Starter.ofFound Layout.compiledMark found with
    | .compiled program =>
      if Layout.shells.contains program then runShell fuel name args st
      else if Layout.launchers.contains program then launch fuel program args st
      else st.runProgram program (String.ofList name) args
    | .script interpreter option =>
      match Lookup.executable st.files st.current interpreter with
      | .ok starter =>
        startFound fuel starter (ofBytes interpreter)
          ((option.map ofBytes).toList ++ ofBytes found.path :: args) st
      | .error _ => { (st.write 2 (name ++ say ": not found\n")).1 with status := 127 }
    | .plain => runShell fuel name (ofBytes found.path :: args) st

/-- Runs a program that starts another one. -/
def launch : Nat → String → List Text → State → State
  | 0, _, _, st => st.exhausted
  | fuel + 1, program, args, st =>
    let start (words : List Text) (st : State) : State :=
      match words with
      | [] => { st with status := 125 }
      | command :: args =>
        match Lookup.find st.files st.current ((st.get? "PATH".toList).map toBytes)
            (toBytes command) with
        | .ok found => startFound fuel found command args st
        | .error fault =>
          let text := if program = "env" then say "env: '" ++ command ++ say ("': " ++ fault.text)
            else
              say (program ++ ": failed to run command '") ++ command ++ say ("': " ++ fault.text)
          { (st.write 2 (text ++ ['\n'])).1 with
            status := if fault = .notFound then 127 else 126 }
    match program with
    | "env" =>
      match takeSettings st args with
      | (inner, []) =>
        { inner.writeOutput "env" (Program.environmentText inner.environment) with status := 0 }
      | (inner, words) => start words inner
    | "timeout" =>
      let (signal, args) := Program.takeValue 's' args
      let (_, args) := Program.takeValue 'k' args
      match args with
      | limit :: words =>
        match Program.microseconds? limit with
        | some limit =>
          let signal := ((signal.bind Builtin.signal?).getD 15)
          let child := st.fork
          let alarm : Delivery := ⟨child.clock + limit, child.owners, child.process, signal⟩
          let child := if limit = 0 then child else { child with toWorld := child.send alarm }
          let inner := (start words child.load).strike fuel
          let st := { st with
            toWorld := inner.leave
            clock := max st.clock inner.clock
            status := inner.exit.reported }
          match inner.flow with
          | .killed _ => { st with status := if signal = 9 then 137 else 124 }
          | _ => st
        | none =>
          { (st.write 2 (say "timeout: invalid time interval '" ++ limit ++
              say "'" ++ Program.tryHelp "timeout" ++ ['\n'])).1 with status := 125 }
      | [] => { (st.write 2 (say "timeout: missing operand" ++
          Program.tryHelp "timeout" ++ ['\n'])).1 with status := 125 }
    | "xargs" =>
      let words := wordsOf st.inputText
      let st := st.takeInput none
      let (count, args) := Program.takeValue 'n' args
      let command := if (Program.operandsOf args).isEmpty then ["echo".toList]
        else Program.operandsOf args
      let size := match count with
        | some n => max 1 (Format.number n)
        | none => max 1 words.length
      let groups := (List.range ((words.length + size - 1) / size)).map fun i =>
        (words.drop (i * size)).take size
      let groups := if groups.isEmpty then [[]] else groups
      groups.foldl (fun st group =>
        if !st.isRunning then st
        else
          let inner := start (command ++ group) st.fork.load
          let after := st.resume inner
          { after with status := if after.status = 0 then st.status else
              if after.status < 125 then 123 else after.status }) { st with status := 0 }
    | "nice" =>
      let (_, args) := Program.takeValue 'n' args
      start args st
    | "stdbuf" => start (args.dropWhile fun a => a.head? = some '-') st
    | _ => start (args.dropWhile fun a => a.head? = some '-') st

/-- Runs a shell of its own in a process that is ready for it. -/
def runShell : Nat → Text → List Text → State → State
  | 0, _, _, st => st.exhausted
  | fuel + 1, name, args, st =>
    match scriptOf st name args with
    | .error (message, status) =>
      { (st.write 2 (name ++ say ": 0: " ++ message ++ ['\n'])).1 with status := status }
    | .ok script =>
      let st := if script.takesInput then st.takeInput none else st
      let mode := { Mode.part with isLast := script.isCommand }
      let after := finish fuel (runScript fuel mode script.text
        { st with
          bindings := initialBindings st, functions := [], locals := none, name := script.name
          args := script.args, line := 1, status := 0, root := st.process, lastJob := none
          options := script.options, jobs := [], loops := 0, optionOffset := 0, saved := none
          flow := .next })
      after

end

end XmlSupport.Shell
