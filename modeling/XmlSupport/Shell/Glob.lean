import XmlSupport.Machine.Files
import XmlSupport.Shell.Wildcard

/-!
# Names of files by patterns

A word that is a pattern becomes the names of the files that it covers, in
ascending order. If there are none it stays as it is.
-/

namespace XmlSupport.Shell.Glob

open Machine

def isSlash (s : Symbol) : Bool := s.char = '/'

/-- The names in a directory that a pattern covers. Hidden ones are covered
only by a pattern that begins with a dot itself. -/
def namesIn (files : Files) (place : Place) (pattern : List Symbol) : List Text :=
  ((files.names place).map ofBytes).filter fun name =>
    (name.head? != some '.' || (pattern.head?.map (·.char)) = some '.') &&
      Wildcard.covers pattern name

/-- The paths below a directory that the components of a pattern cover. -/
def paths (files : Files) (current : Place) : Text → List (List Symbol) → List Text
  | path, [] => [path]
  | path, component :: rest =>
    let found := if Wildcard.isPattern component then
        match files.resolve current (if path.isEmpty then Path.dot else toBytes path) with
        | .ok place => namesIn files place component
        | .error _ => []
      else [Symbol.texts component]
    found.flatMap fun name =>
      let path := path ++ name
      if rest.isEmpty then
        if (files.lookUp current (toBytes path)).toOption.isSome then [path] else []
      else paths files current (path ++ ['/']) rest

/-- What a field stands for. -/
def expand (files : Files) (current : Place) (symbols : List Symbol) : List Text :=
  if !Wildcard.isPattern symbols then [Symbol.texts symbols]
  else
    let components := symbols.splitOnP isSlash
    let found := match components with
      | [] :: rest => paths files current ['/'] (rest.dropWhile List.isEmpty)
      | components => paths files current [] components
    if found.isEmpty then [Symbol.texts symbols] else found

end XmlSupport.Shell.Glob
