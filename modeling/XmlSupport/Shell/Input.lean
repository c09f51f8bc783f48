import XmlSupport.Shell.State
import XmlSupport.Shell.Wildcard

/-!
# Reading a line

A shell reads a line of its input, splits it into words and gives them to
variables, the last of which takes what is left.
-/

namespace XmlSupport.Shell.Input

/-- One line with the characters that may separate words marked, whether it has
an end, and how many bytes it takes. A backslash joins lines and takes meanings
away unless `isRaw`. -/
def takeLine (isRaw : Bool) : Nat → Text → List Symbol × Bool × Nat
  | 0, _ => ([], false, 0)
  | _, [] => ([], false, 0)
  | fuel + 1, c :: rest =>
    if c = '\n' then ([], true, 1)
    else if c = '\\' && !isRaw then
      match rest with
      | [] => ([], false, 1)
      | d :: rest =>
        let (line, isWhole, n) := takeLine isRaw fuel rest
        (if d = '\n' then line else ⟨d, false⟩ :: line, isWhole, n + 2)
    else
      let (line, isWhole, n) := takeLine isRaw fuel rest
      (⟨c, true⟩ :: line, isWhole, n + 1)

def isBlank (separators : Text) (s : Symbol) : Bool :=
  s.isActive && separators.contains s.char && (s.char = ' ' || s.char = '\t' || s.char = '\n')

def isSeparator (separators : Text) (s : Symbol) : Bool := s.isActive && separators.contains s.char

/-- Behind the separators at the end of a word: blanks and at most one other. -/
def dropSeparator (separators : Text) (line : List Symbol) : List Symbol :=
  let line := line.dropWhile (isBlank separators)
  match line with
  | s :: rest => if isSeparator separators s then rest.dropWhile (isBlank separators) else line
  | [] => []

def trimBlanks (separators : Text) (line : List Symbol) : List Symbol :=
  (line.reverse.dropWhile (isBlank separators)).reverse

/-- The last word: a separator behind it is not part of it if there is no other. -/
def lastWord (separators : Text) (line : List Symbol) : List Symbol :=
  let line := trimBlanks separators line
  let word := line.takeWhile fun s => !isSeparator separators s
  if (dropSeparator separators (line.drop word.length)).isEmpty then word else line

/-- The values of names. -/
def distribute (separators : Text) : List Symbol → List Text → List (Text × Text)
  | _, [] => []
  | line, [name] =>
    [(name, Symbol.texts (lastWord separators (line.dropWhile (isBlank separators))))]
  | line, name :: names =>
    let line := line.dropWhile (isBlank separators)
    let word := line.takeWhile fun s => !isSeparator separators s
    (name, Symbol.texts word) ::
      distribute separators (dropSeparator separators (line.drop word.length)) names

/-- Reads a line into variables. It fails at the end of the input. -/
def read (st : State) (isRaw : Bool) (names : List Text) : State :=
  match st.opening? 0 with
  | none => { st with status := 1 }
  | some opening =>
    match st.text? opening with
    | none => { st with status := 1 }
    | some text =>
      let (line, isWhole, n) := takeLine isRaw (text.length + 1) text
      let (world, time) := if isWhole then st.take opening n else st.drain opening
      let st := { st with toWorld := world }.waitUntil time
      let st := (distribute st.separators line names).foldl (fun st (name, value) =>
        st.assign name value) st
      if st.isRunning then { st with status := if isWhole then 0 else 1 } else st

end XmlSupport.Shell.Input
