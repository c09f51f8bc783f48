import XmlSupport.Shell.Wildcard

/-!
# Fields

The expansion of a word is a list of fragments. What comes from an expansion
outside quotes is split at separators, so that a word can become several fields
or none.
-/

namespace XmlSupport.Shell

/-- A part of an expanded word. -/
inductive Fragment where
  /-- A character of the script. -/
  | plain (c : Char)
  | quoted (c : Char)
  /-- A character of an expansion outside quotes. -/
  | expanded (c : Char)
  /-- Quotes, even around nothing, make a field. -/
  | mark
  /-- The end of a field and the beginning of another, even if they are empty. -/
  | cut
  /-- The end of a field. -/
  | gap
  /-- All arguments where there are none: quotes around it make no field. -/
  | vanish
  deriving DecidableEq, Repr

namespace Fragment

def symbol? : Fragment → Option Symbol
  | .plain c => some ⟨c, true⟩
  | .quoted c => some ⟨c, false⟩
  | .expanded c => some ⟨c, true⟩
  | .cut => some ⟨' ', false⟩
  | .gap => some ⟨' ', false⟩
  | _ => none

/-- The word as one field that is not split. -/
def symbols (fragments : List Fragment) : List Symbol := fragments.filterMap symbol?

def join (fragments : List Fragment) : Text := Symbol.texts (symbols fragments)

def ofText (isQuoted : Bool) (text : Text) : List Fragment :=
  text.map fun c => if isQuoted then .quoted c else .expanded c

/-- All arguments as fields of their own. -/
def ofArguments (isQuoted : Bool) (args : List Text) : List Fragment :=
  if isQuoted && args.isEmpty then [.vanish]
  else [if isQuoted then Fragment.cut else .gap].intercalate (args.map (ofText isQuoted))

def isBlank (c : Char) : Bool := c = ' ' || c = '\t' || c = '\n'

/-- A field that is being collected, in reverse. -/
abbrev Open : Type := Option (List Symbol)

def finish (opened : Open) : List (List Symbol) := (opened.map List.reverse).toList

def add (opened : Open) (c : Char) (isActive : Bool) : Open :=
  some (⟨c, isActive⟩ :: opened.getD [])

/-- Splits at separators. Blanks make no empty fields; any other separator ends
a field, even an empty one, unless blanks have just ended it. -/
def collect (separators : Text) : List Fragment → Open → Bool → List (List Symbol)
  | [], opened, _ => finish opened
  | .plain c :: rest, opened, _ => collect separators rest (add opened c true) false
  | .quoted c :: rest, opened, _ => collect separators rest (add opened c false) false
  | .expanded c :: rest, opened, isAfterBlank =>
    if !separators.contains c then collect separators rest (add opened c true) false
    else if isBlank c then
      finish opened ++ collect separators rest none (isAfterBlank || opened.isSome)
    else if opened.isNone && !isAfterBlank then [] :: collect separators rest none false
    else finish opened ++ collect separators rest none false
  | .mark :: rest, opened, _ => collect separators rest (some (opened.getD [])) false
  | .cut :: rest, opened, _ =>
    (opened.getD []).reverse :: collect separators rest (some []) false
  | .gap :: rest, opened, _ => finish opened ++ collect separators rest none false
  | .vanish :: rest, opened, isAfterBlank => collect separators rest opened isAfterBlank

/-- The fields of an expanded word. -/
def fields (separators : Text) (fragments : List Fragment) : List (List Symbol) :=
  if fragments.contains .vanish then
    collect separators (fragments.filter (· != .mark)) none false
  else collect separators fragments none false

end Fragment
end XmlSupport.Shell
