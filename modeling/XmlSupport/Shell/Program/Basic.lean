import XmlSupport.Machine.Files
import XmlSupport.Shell.Format

/-!
# Small programs

The companions of the shell turn their arguments, their input and the files
into output. A program sees all of its input at once and says how much of it it
has taken.
-/

namespace XmlSupport.Shell.Program

open Machine

/-- What a program finds when it starts. -/
structure Call where
  files : Files
  current : Place
  environment : List (Text × Text)
  input : Text
  /-- Whether input that was read too far can be given back. -/
  isSeekable : Bool
  args : List Text

/-- What a program does. -/
structure Effect where
  output : Text := []
  errors : Text := []
  status : Nat := 0
  /-- How much of the input it has taken; all of it if nothing is said. -/
  taken : Option Nat := some 0
  files : Option Files := none
  /-- How long it takes beyond what every program needs. -/
  duration : Nat := 0

namespace Effect

def success : Effect := {}

def printing (output : Text) : Effect := { output := output }

def failing (status : Nat) (message : Text) : Effect :=
  { errors := message ++ ['\n'], status := status }

end Effect

/-- A message of a program about something. -/
def about (name : String) (operand : Text) (reason : String) : Text :=
  say (name ++ ": ") ++ operand ++ say (": " ++ reason)

/-- How much is given of a file without an end. -/
def endlessLength : Nat := 300000

/-- The content of an operand, a dash standing for the input. -/
def Call.content (call : Call) (operand : Text) : Except Fault Text :=
  if operand = ['-'] || operand = "/dev/stdin".toList then .ok call.input
  else if operand = "/dev/zero".toList then .ok (List.replicate endlessLength '\x00')
  else (call.files.read call.current (toBytes operand)).map ofBytes

/-- Whether the operands of a program make it read its input. -/
def takesInput (operands : List Text) : Bool :=
  operands.isEmpty || operands.contains ['-'] || operands.contains "/dev/stdin".toList

/-- The content of each operand that can be read, and messages about the others. -/
def Call.contents (call : Call) (name : String) (operands : List Text) :
    List (Text × Text) × Text :=
  if operands.isEmpty then ([(['-'], call.input)], [])
  else operands.foldl (fun (contents, errors) operand =>
    match call.content operand with
    | .ok text => (contents ++ [(operand, text)], errors)
    | .error fault => (contents, errors ++ about name operand fault.text ++ ['\n'])) ([], [])

/-- The joined content of all operands, and messages about those that cannot be read. -/
def Call.gather (call : Call) (name : String) (operands : List Text) : Text × Text :=
  let (contents, errors) := call.contents name operands
  (contents.flatMap (·.2), errors)

/-- A program that turns the content of its operands into output. -/
def Call.filter (call : Call) (name : String) (operands : List Text) (f : Text → Text) : Effect :=
  let (text, errors) := call.gather name operands
  { output := f text
    errors := errors
    status := if errors.isEmpty then 0 else 1
    taken := if takesInput operands then none else some 0 }

/-- The arguments that are no options; behind two dashes there are none. -/
def operandsOf : List Text → List Text
  | [] => []
  | ['-', '-'] :: rest => rest
  | a :: rest => if a.head? = some '-' && a != ['-'] then operandsOf rest else a :: operandsOf rest

def optionsOf : List Text → List Text
  | [] => []
  | ['-', '-'] :: _ => []
  | a :: rest => if a.head? = some '-' && a != ['-'] then a :: optionsOf rest else optionsOf rest

def hasOption (letter : Char) (args : List Text) : Bool :=
  (optionsOf args).any fun a => a.contains letter && !("--".toList.isPrefixOf a)

/-- The value of an option, behind its letter or in the next argument, and the
arguments without it. -/
def takeValue (letter : Char) : List Text → Option Text × List Text
  | [] => (none, [])
  | ('-' :: c :: value) :: rest =>
    if c = letter then
      if value.isEmpty then (rest.head?, rest.drop 1) else (some value, rest)
    else
      let (found, rest) := takeValue letter rest
      (found, ('-' :: c :: value) :: rest)
  | a :: rest =>
    let (found, rest) := takeValue letter rest
    (found, a :: rest)

def placeText (place : Place) : Text :=
  if place.isEmpty then ['/'] else place.flatMap fun c => '/' :: ofBytes c

def environmentText (environment : List (Text × Text)) : Text :=
  environment.flatMap fun (k, v) => k ++ '=' :: v ++ ['\n']

end XmlSupport.Shell.Program
