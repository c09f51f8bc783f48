import XmlSupport.Log.Directive

/-!
# Which entries are logged

A filter is a list of rules. The most specific rule that fits an entry decides:
a longer target wins, then a field that the entry has to have. What no rule fits
is not logged. Directives for spans and for values of fields are read but make
no rule, as entries stand in no span and their values are not tested.
-/

namespace XmlSupport.Log

structure Rule where
  target : Option (List Char)
  /-- A field that an entry has to have. -/
  field : Option (List Char)
  verbosity : Verbosity
  deriving DecidableEq, Repr

namespace Rule

def ofDirective? (d : Directive) : Option Rule :=
  if d.span.isSome || (d.field.map FieldTest.hasValue).getD false then none
  else some ⟨d.target, d.field.map FieldTest.name, d.verbosity⟩

/-- The target has to begin the entry's, and the field has to be among the entry's. -/
def fits (r : Rule) (target : List Char) (fields : List (List Char)) : Bool :=
  (r.target.map (·.isPrefixOf target)).getD true && (r.field.map fields.contains).getD true

/-- No rank without a target, and one more than its length with it. -/
def targetRank (r : Rule) : Nat := (r.target.map fun t => Directive.byteCount t + 1).getD 0

/-- Fields are ranked by their names, below all of them that there is none. -/
def fieldBelow : Option (List Char) → Option (List Char) → Bool
  | none, some _ => true
  | some a, some b => a < b
  | _, none => false

def isLessSpecific (a b : Rule) : Bool :=
  a.targetRank < b.targetRank || (a.targetRank = b.targetRank && fieldBelow a.field b.field)

end Rule

abbrev Filter : Type := List Rule

namespace Filter

/-- Used where none is given or the given one cannot be read. -/
def standard : Filter := [⟨none, none, 3⟩]

/-- Used where a text has no directives. -/
def errorsOnly : Filter := [⟨none, none, 1⟩]

def isPlain (d : Directive) : Bool := d.span.isNone && d.field.isNone

def ofDirectives (ds : List Directive) : Filter :=
  if ds.isEmpty then errorsOnly
  else ((ds.filter isPlain) ++ ds.filter (! isPlain ·)).filterMap Rule.ofDirective?

/-- Directives stand between commas; where nothing stands between two of them there is none. -/
def parse (text : List Char) : Option Filter :=
  (((text.splitOn ',').filter fun part => ! part.isEmpty).mapM Directive.parse).map ofDirectives

def ofVariable : Option String → Filter
  | none => standard
  | some text => (parse text.toList).getD standard

/-- The most specific of the rules that fit, of equal ones the last. -/
def deciding (f : Filter) (target : List Char) (fields : List (List Char)) : Option Rule :=
  (f.filter (·.fits target fields)).foldl (fun best r =>
    match best with
    | some b => if r.isLessSpecific b then some b else some r
    | none => some r) none

def fieldNames (e : Entry) : List (List Char) := "message".toList :: e.fields.map (·.1.toList)

def admits (f : Filter) (target : String) (e : Entry) : Bool :=
  match f.deciding target.toList (fieldNames e) with
  | some r => e.level.rank ≤ r.verbosity
  | none => false

end Filter
end XmlSupport.Log
