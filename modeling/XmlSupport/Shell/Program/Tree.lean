import XmlSupport.Shell.Program.Basic

/-!
# Programs that work on files

They list, create, copy and remove files and directories.
-/

namespace XmlSupport.Shell.Program

open Machine

/-- The names in a directory, but for hidden ones. A file is listed by its own name. -/
def list (call : Call) (operand : Text) : Except Fault (List Text) := do
  let place ← call.files.resolve call.current (toBytes operand)
  match call.files.node? place with
  | some (.file _ _) => return [operand]
  | some _ =>
    let names := (call.files.names place).map ofBytes
    return names.filter fun n => n.head? != some '.' || hasOption 'A' call.args
  | none => throw .notFound

def ls (call : Call) : Effect :=
  let operands := operandsOf call.args
  let operands := if operands.isEmpty then [['.']] else operands
  operands.foldl (fun (e : Effect) operand =>
    match if hasOption 'd' call.args then (call.files.lookUp call.current (toBytes operand)).map
        fun _ => [operand] else list call operand with
    | .ok names =>
      let isTitled := 1 < operands.length &&
        call.files.isDirectory call.current (toBytes operand) && !hasOption 'd' call.args
      let title :=
        if isTitled then (if e.output.isEmpty then [] else ['\n']) ++ operand ++ [':', '\n']
        else []
      { e with output := e.output ++ title ++ unlines names }
    | .error fault =>
      { e with
        errors := e.errors ++ say "ls: cannot access '" ++ operand ++
          say ("': " ++ fault.text ++ "\n")
        status := 2 }) Effect.success

/-- Works on one operand after the other; a fault is told and the others go on. -/
def onEach (call : Call) (operands : List Text) (act : Files → Text → Except Fault Files)
    (tell : Text → Fault → Text) : Effect :=
  let (files, errors) := operands.foldl (fun (files, errors) operand =>
    match act files operand with
    | .ok files => (files, errors)
    | .error fault => (files, errors ++ tell operand fault ++ ['\n'])) (call.files, [])
  { files := some files, errors := errors, status := if errors.isEmpty then 0 else 1 }

def quotedOperand (what : String) (operand : Text) (fault : Fault) : Text :=
  say (what ++ " '") ++ operand ++ say ("': " ++ fault.text)

def touch (call : Call) : Effect :=
  onEach call (operandsOf call.args) (fun files operand =>
    match files.lookUp call.current (toBytes operand) with
    | .ok _ => .ok files
    | .error .notFound => files.write call.current (toBytes operand) [] false
    | .error fault => .error fault) (quotedOperand "touch: cannot touch")

def mkdir (call : Call) : Effect :=
  onEach call (operandsOf call.args) (fun files operand =>
    if hasOption 'p' call.args then files.ensureDirectory call.current (toBytes operand)
    else files.makeDirectory call.current (toBytes operand))
    (quotedOperand "mkdir: cannot create directory")

/-- Takes places out of the file system. -/
def removing (files : Files) (isGone : Place → Bool) : Files :=
  .ofList (files.nodes.entries.filter fun e => !isGone e.1)

def rm (call : Call) : Effect :=
  let isForced := hasOption 'f' call.args
  let isDeep := hasOption 'r' call.args || hasOption 'R' call.args
  onEach call (operandsOf call.args) (fun files operand =>
    match files.resolve call.current (toBytes operand) with
    | .error .notFound => if isForced then .ok files else .error .notFound
    | .error fault => .error fault
    | .ok place =>
      match files.node? place with
      | some (.file _ _) => .ok (removing files (· = place))
      | _ => if isDeep then .ok (removing files (place.isPrefixOf ·)) else .error .isADirectory)
    (quotedOperand "rm: cannot remove")

def rmdir (call : Call) : Effect :=
  onEach call (operandsOf call.args) (fun files operand => do
    let place ← files.resolve call.current (toBytes operand)
    match files.node? place with
    | some (.directory _) =>
      if (files.names place).isEmpty then return removing files (· = place)
      else throw .directoryNotEmpty
    | _ => throw .notADirectory) (quotedOperand "rmdir: failed to remove")

/-- Where a file goes that is copied or moved to an operand. -/
def destination (files : Files) (current : Place) (source target : Text) : Text :=
  if files.isDirectory current (toBytes target) then
    ofBytes (Path.join (toBytes target)
      ((Path.components (toBytes source)).getLast?.getD (toBytes source)))
  else target

def copyFile (files : Files) (current : Place) (source target : Text) : Except Fault Files := do
  match ← files.lookUp current (toBytes source) with
  | .file content executable =>
    files.write current (toBytes (destination files current source target)) content executable
  | _ => throw .isADirectory

def cp (call : Call) : Effect :=
  let operands := operandsOf call.args
  let target := operands.getLastD []
  onEach call operands.dropLast (fun files source => copyFile files call.current source target)
    (quotedOperand "cp: cannot stat")

def mv (call : Call) : Effect :=
  let operands := operandsOf call.args
  let target := operands.getLastD []
  onEach call operands.dropLast (fun files source => do
    let place ← files.resolve call.current (toBytes source)
    let copied ← copyFile files call.current source target
    return removing copied (· = place)) (quotedOperand "mv: cannot stat")

def chmod (call : Call) : Effect :=
  match operandsOf call.args with
  | mode :: operands =>
    let isExecutable := mode.contains 'x' || (mode.any fun c => "1357".toList.contains c)
    onEach call operands (fun files operand => do
      let place ← files.resolve call.current (toBytes operand)
      match files.node? place with
      | some (.file content _) => return files.set place (.file content isExecutable)
      | _ => return files) (quotedOperand "chmod: cannot access")
  | [] => Effect.failing 1 (say "chmod: missing operand")

/-- The last component of a path, without an ending that it may have. -/
def basename (path ending : Text) : Text :=
  let name := ((Path.components (toBytes path)).getLast?.map ofBytes).getD
    (if path.isEmpty then [] else ['/'])
  if !ending.isEmpty && name != ending && ending.reverse.isPrefixOf name.reverse then
    name.take (name.length - ending.length)
  else name

def dirname (path : Text) : Text :=
  let components := Path.components (toBytes path)
  let front := ['/'].intercalate (components.dropLast.map ofBytes)
  if path.head? = some '/' then '/' :: front else if front.isEmpty then ['.'] else front

end XmlSupport.Shell.Program
