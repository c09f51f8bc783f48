/-!
# Refusals of the operating system

Files cannot be opened and programs cannot be started for the reasons below.
Those that carry a number are the system's own, the others are found on the way
to it or back.
-/

namespace XmlSupport.Machine

inductive Fault where
  | notFound
  | badFormat
  | permissionDenied
  | alreadyExists
  | notADirectory
  | isADirectory
  | nameTooLong
  | directoryNotEmpty
  /-- The content of a file that should hold text is not text. -/
  | notText
  /-- The name of a file holds a zero byte. -/
  | zeroInName
  /-- The command line or the environment of a program holds a zero byte. -/
  | zeroInCommand
  deriving DecidableEq, Repr

namespace Fault

def text : Fault → String
  | .notFound => "No such file or directory"
  | .badFormat => "Exec format error"
  | .permissionDenied => "Permission denied"
  | .alreadyExists => "File exists"
  | .notADirectory => "Not a directory"
  | .isADirectory => "Is a directory"
  | .nameTooLong => "File name too long"
  | .directoryNotEmpty => "Directory not empty"
  | .notText => "stream did not contain valid UTF-8"
  | .zeroInName => "file name contained an unexpected NUL byte"
  | .zeroInCommand => "nul byte found in provided data"

/-- The system's number of a refusal. -/
def number? : Fault → Option Nat
  | .notFound => some 2
  | .badFormat => some 8
  | .permissionDenied => some 13
  | .alreadyExists => some 17
  | .notADirectory => some 20
  | .isADirectory => some 21
  | .nameTooLong => some 36
  | .directoryNotEmpty => some 39
  | .notText => none
  | .zeroInName => none
  | .zeroInCommand => none

def message (fault : Fault) : String :=
  match fault.number? with
  | some n => fault.text ++ " (os error " ++ toString n ++ ")"
  | none => fault.text

end Fault
end XmlSupport.Machine
