import XmlSupport.Shell.Text

/-!
# Shell commands

Servers are often started through a script of the command shell. A script is a
list of commands, each a tree of the shell's constructs, and the words in it are
lists of pieces that are expanded when the command runs.
-/

namespace XmlSupport.Shell

/-- What a parameter expansion does when its parameter is missing or present. -/
inductive Fallback where
  /-- Takes the word instead. -/
  | use
  /-- Takes the word instead, and assigns it. -/
  | assign
  /-- Takes the word if the parameter is there. -/
  | replace
  /-- Ends the shell with the word as message. -/
  | complain
  deriving DecidableEq, Repr

/-- What a pattern takes away from the value of a parameter. -/
structure Trim where
  fromFront : Bool
  takesMost : Bool
  deriving DecidableEq, Repr

inductive Direction where
  | read
  | write
  /-- Writes over a file even where files are protected. -/
  | replace
  | append
  | readWrite
  /-- Takes over another descriptor, or closes this one. -/
  | copy
  /-- Reads the text that stands in the script. -/
  | document
  deriving DecidableEq, Repr

mutual

inductive Piece where
  /-- A character as it stands. -/
  | plain (c : Char)
  /-- A character that has lost its special meaning. -/
  | quoted (c : Char)
  /-- Quotes, even around nothing, make a field. -/
  | quoteMark
  | parameter (name : Text) (isQuoted : Bool)
  | parameterLength (name : Text) (isQuoted : Bool)
  /-- An empty parameter counts as missing if `emptyToo`. -/
  | parameterOr (name : Text) (emptyToo : Bool) (fallback : Fallback) (word : List Piece)
      (isQuoted : Bool)
  | parameterTrimmed (name : Text) (trim : Trim) (pattern : List Piece) (isQuoted : Bool)
  | substitution (body : Command) (isQuoted : Bool)
  | arithmetic (expression : List Piece) (isQuoted : Bool)
  /-- An expansion that has no meaning. -/
  | badExpansion

inductive Redirection where
  | mk (descriptor : Nat) (direction : Direction) (target : List Piece)

inductive Command where
  | skip
  | simple (line : Nat) (assignments : List (Text × List Piece)) (words : List (List Piece))
      (redirections : List Redirection)
  | pipe (first second : Command)
  | negate (command : Command)
  | both (first second : Command)
  | either (first second : Command)
  | inTurn (first second : Command)
  | background (line : Nat) (command : Command)
  | subshell (line : Nat) (body : Command)
  | redirected (line : Nat) (body : Command) (redirections : List Redirection)
  | choose (condition consequence alternative : Command)
  /-- Repeats while the condition's success is `expected`. -/
  | loop (expected : Bool) (condition body : Command)
  | forEach (line : Nat) (name : Text) (words : List (List Piece)) (body : Command)
  /-- Runs the first branch with a pattern that matches the word. -/
  | select (line : Nat) (word : List Piece) (branches : List (List (List Piece) × Command))
  | define (name : Text) (body : Command)

end

abbrev Word : Type := List Piece

def Redirection.descriptor : Redirection → Nat
  | .mk d _ _ => d

def Redirection.direction : Redirection → Direction
  | .mk _ d _ => d

def Redirection.target : Redirection → Word
  | .mk _ _ t => t

/-- One command behind another, where either may be missing. -/
def Command.followedBy (first second : Command) : Command :=
  match first, second with
  | .skip, second => second
  | first, .skip => first
  | first, second => .inTurn first second

end XmlSupport.Shell
