import XmlSupport.Shell.State

/-!
# Redirections

A redirection opens a file for a descriptor, lets it lead where another one
leads, or closes it.
-/

namespace XmlSupport.Shell.Redirect

open Machine

/-- Why a redirection cannot be made. -/
inductive RedirectFault where
  | cannotOpen (path : Text) (fault : Fault)
  | cannotCreate (path : Text) (fault : Fault)
  | notOpen (descriptor : Text)
  | notANumber
  deriving DecidableEq, Repr

def reason (missing : String) : Fault → String
  | .notFound => missing
  | .notADirectory => missing
  | fault => fault.text

def RedirectFault.message : RedirectFault → Text
  | .cannotOpen path fault =>
    say "cannot open " ++ path ++ say (": " ++ reason "No such file" fault)
  | .cannotCreate path fault =>
    say "cannot create " ++ path ++ say (": " ++ reason "Directory nonexistent" fault)
  | .notOpen descriptor => descriptor ++ say ": Bad file descriptor"
  | .notANumber => say "Syntax error: Bad fd number"

def bind (st : State) (descriptor opening : Nat) : State :=
  { st with
    descriptors := (descriptor, opening) :: st.descriptors.filter fun d => d.1 != descriptor }

def unbind (st : State) (descriptor : Nat) : State :=
  { st with descriptors := st.descriptors.filter fun d => d.1 != descriptor }

/-- Opens a stream for a descriptor. -/
def bindNew (st : State) (descriptor : Nat) (o : Opening) : State :=
  let (world, opening) := st.openStream o
  bind { st with toWorld := world } descriptor opening

/-- Gives a text to a descriptor to read. -/
def bindText (st : State) (descriptor : Nat) (text : Text) : State :=
  let (world, _, reading, writing) := st.openChannel .patient
  let (world, _) := world.write writing ⟨0, [], text⟩
  bind { st with toWorld := world } descriptor reading

/-- The descriptor that a path stands for. -/
def namedDescriptor? (path : Text) : Option Text :=
  match String.ofList path with
  | "/dev/stdin" => some ['0']
  | "/dev/stdout" => some ['1']
  | "/dev/stderr" => some ['2']
  | _ =>
    let front := "/dev/fd/".toList
    if front.isPrefixOf path then some (path.drop front.length) else none

def copy (st : State) (descriptor : Nat) (target : Text) : Except RedirectFault State :=
  if target = ['-'] then .ok (unbind st descriptor)
  else if target.isEmpty || !target.all Char.isDigit then .error .notANumber
  else
    match st.opening? ((String.ofList target).toNat?.getD 0) with
    | some opening => .ok (bind st descriptor opening)
    | none => .error (.notOpen target)

/-- Opens a file to write to, created if it is missing and emptied unless it is kept. -/
def openFile (st : State) (path : Text) (keeps : Bool) : Except Fault (State × Place) := do
  match st.files.lookUp st.current (toBytes path) with
  | .ok (.file _ executable) =>
    let place ← st.files.resolve st.current (toBytes path)
    let emptied := { st with files := st.files.set place (.file [] executable) }
    return (if keeps then st else emptied, place)
  | _ =>
    let files ← st.files.write st.current (toBytes path) [] false
    let place ← files.resolve st.current (toBytes path)
    return ({ st with files := files }, place)

def isDevice (path : Text) : Bool := path = "/dev/null".toList || path = "/dev/zero".toList

def device (path : Text) : Stream := if path = "/dev/zero".toList then .zeros else .nowhere

def read (st : State) (descriptor : Nat) (path : Text) (writes : Bool) :
    Except RedirectFault State :=
  if isDevice path then .ok (bindNew st descriptor ⟨device path, true, writes⟩)
  else
    match st.files.resolve st.current (toBytes path) with
    | .ok place =>
      if (st.files.node? place).isSome then
        .ok (bindNew st descriptor ⟨.file place 0 false, true, writes⟩)
      else .error (.cannotOpen path .notFound)
    | .error fault => .error (.cannotOpen path fault)

def write (st : State) (descriptor : Nat) (path : Text) (appends reads protects : Bool) :
    Except RedirectFault State :=
  if isDevice path then .ok (bindNew st descriptor ⟨.nowhere, reads, true⟩)
  else
    let isThere := match st.files.lookUp st.current (toBytes path) with
      | .ok (.file _ _) => true
      | _ => false
    if protects && isThere then .error (.cannotCreate path .alreadyExists)
    else
      match openFile st path (appends || reads) with
      | .ok (st, place) => .ok (bindNew st descriptor ⟨.file place 0 appends, reads, true⟩)
      | .error fault => .error (.cannotCreate path fault)

/-- Applies a redirection whose target has been expanded. -/
def apply (st : State) (descriptor : Nat) (direction : Direction) (target : Text) :
    Except RedirectFault State :=
  match direction, namedDescriptor? target with
  | .copy, _ => copy st descriptor target
  | .document, _ => .ok (bindText st descriptor target)
  | _, some named => copy st descriptor named
  | .read, none => read st descriptor target false
  | .readWrite, none => write st descriptor target false true false
  | .write, none => write st descriptor target false false (st.hasOption 'C')
  | .replace, none => write st descriptor target false false false
  | .append, none => write st descriptor target true false false

end XmlSupport.Shell.Redirect
