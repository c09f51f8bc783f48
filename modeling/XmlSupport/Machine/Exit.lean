/-!
# How processes end

A process ends by itself with a status, or is ended by a signal.
-/

namespace XmlSupport.Machine

inductive Exit where
  | exited (status : UInt8)
  | signalled (number : Nat)
  deriving DecidableEq, Repr

namespace Signal

/-- Signals by number, without their common first letters. -/
def names : List (Nat × String) :=
  [(1, "HUP"), (2, "INT"), (3, "QUIT"), (4, "ILL"), (5, "TRAP"), (6, "ABRT"), (7, "BUS"),
   (8, "FPE"), (9, "KILL"), (10, "USR1"), (11, "SEGV"), (12, "USR2"), (13, "PIPE"), (14, "ALRM"),
   (15, "TERM"), (16, "STKFLT"), (17, "CHLD"), (18, "CONT"), (19, "STOP"), (20, "TSTP"),
   (21, "TTIN"), (22, "TTOU"), (23, "URG"), (24, "XCPU"), (25, "XFSZ"), (26, "VTALRM"),
   (27, "PROF"), (28, "WINCH"), (29, "IO"), (30, "PWR"), (31, "SYS")]

def number? (name : String) : Option Nat := (names.find? (·.2 == name)).map (·.1)

def name? (number : Nat) : Option String := names.lookup number

/-- Signals that a process does not notice unless it asks for them. -/
def isIgnored (number : Nat) : Bool := [17, 18, 23, 28].contains number

end Signal

namespace Exit

/-- The status with which the client itself ends. -/
def code : Exit → Nat
  | .exited status => status.toNat
  | .signalled _ => 1

/-- The status that a shell reports of a process. -/
def reported : Exit → Nat
  | .exited status => status.toNat
  | .signalled number => 128 + number

def describe : Exit → String
  | .exited status => "exit status: " ++ toString status.toNat
  | .signalled number =>
    "signal: " ++ toString number ++
      match Signal.name? number with
      | some name => " (SIG" ++ name ++ ")"
      | none => ""

end Exit
end XmlSupport.Machine
