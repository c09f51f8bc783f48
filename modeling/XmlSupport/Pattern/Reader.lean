import XmlSupport.Pattern.Basic
import XmlSupport.Pattern.Node

/-!
# Reading patterns

The text of a pattern is cut into tokens, and tokens are put together under the
brackets that are open. The reader knows as much of the pattern language as the
indentation rules are written in.
-/

namespace XmlSupport.Pattern

inductive Token where
  | character (k : CharClass)
  /-- Any number of the character before. -/
  | star
  /-- One or more of the character before. -/
  | plus
  | reference (index : Nat)
  | wordBoundary
  | start
  | finish
  | bar
  | openGroup
  | openAhead (expected : Bool)
  | close
  deriving DecidableEq, Repr

namespace Token

/-- A character behind a backslash, where it stands for characters. Letters
without a meaning of their own are not escaped. -/
def member? (c : Char) : Option Member :=
  if c = 's' then some .blank
  else if c = 'w' then some .word
  else if c = 'd' then some .digit
  else if Member.isWord c then none
  else some (.one c)

/-- A character behind a backslash outside of a class. -/
def ofEscape? (c : Char) : Option Token :=
  if c = 'b' then some .wordBoundary
  else if '1' ≤ c && c ≤ '9' then some (.reference (c.toNat - '0'.toNat))
  else (member? c).map fun m => .character (.of m)

/-- The tokens of a text, the first argument being the class that is open. A
hyphen makes a range only between two characters that stand for themselves. -/
def ofText? : Option CharClass → List Char → Option (List Token)
  | none, [] => some []
  | some _, [] => none
  | some k, ']' :: rest => (ofText? none rest).map (.character k :: ·)
  | some k, '\\' :: c :: rest => (member? c).bind fun m => ofText? (some (k.add m)) rest
  | some k, c :: '-' :: ']' :: rest =>
    (ofText? none rest).map (.character ((k.add (.one c)).add (.one '-')) :: ·)
  | some k, c :: '-' :: d :: rest =>
    if d = '\\' then none else ofText? (some (k.add (.range c d))) rest
  | some k, c :: rest => ofText? (some (k.add (.one c))) rest
  | none, '[' :: '^' :: rest => ofText? (some ⟨true, []⟩) rest
  | none, '[' :: rest => ofText? (some ⟨false, []⟩) rest
  | none, '(' :: '?' :: '=' :: rest => (ofText? none rest).map (.openAhead true :: ·)
  | none, '(' :: '?' :: '!' :: rest => (ofText? none rest).map (.openAhead false :: ·)
  | none, '(' :: rest => (ofText? none rest).map (.openGroup :: ·)
  | none, ')' :: rest => (ofText? none rest).map (.close :: ·)
  | none, '|' :: rest => (ofText? none rest).map (.bar :: ·)
  | none, '*' :: rest => (ofText? none rest).map (.star :: ·)
  | none, '+' :: rest => (ofText? none rest).map (.plus :: ·)
  | none, '^' :: rest => (ofText? none rest).map (.start :: ·)
  | none, '$' :: rest => (ofText? none rest).map (.finish :: ·)
  | none, '.' :: rest => (ofText? none rest).map (.character .dot :: ·)
  | none, '\\' :: c :: rest => (ofEscape? c).bind fun t => (ofText? none rest).map (t :: ·)
  | none, c :: rest =>
    if c = '?' || c = '\\' then none
    else (ofText? none rest).map (.character (.of (.one c)) :: ·)

end Token

/-- An open bracket. -/
inductive Bracket where
  | group (index : Nat)
  | ahead (expected : Bool)
  deriving DecidableEq, Repr

def Bracket.around : Bracket → Node → Node
  | .group index, n => .group index n
  | .ahead expected, n => .ahead expected n

/-- What has been read since a bracket was opened: whole alternatives and the
parts of the present one, the latest first. -/
structure Alternatives where
  earlier : List Node
  parts : List Node
  deriving DecidableEq, Repr

namespace Alternatives

def none : Alternatives := ⟨[], []⟩

def push (a : Alternatives) (n : Node) : Alternatives := { a with parts := n :: a.parts }

def present (a : Alternatives) : Node := a.parts.foldl (fun rest n => .both n rest) .empty

def next (a : Alternatives) : Alternatives := ⟨a.present :: a.earlier, []⟩

def node (a : Alternatives) : Node := a.earlier.foldl (fun rest n => .either n rest) a.present

/-- Repeats the last part, if it is a single character. -/
def repeat? (isNeeded : Bool) : Alternatives → Option Alternatives
  | ⟨earlier, .one k :: parts⟩ =>
    some ⟨earlier, if isNeeded then .many k :: .one k :: parts else .many k :: parts⟩
  | _ => Option.none

end Alternatives

namespace Node

/-- Puts tokens together; the arguments are the number of groups so far, the
open brackets with what came before them, and what has been read since. -/
def ofTokens? : Nat → List (Bracket × Alternatives) → Alternatives → List Token → Option Node
  | _, [], a, [] => some a.node
  | _, _ :: _, _, [] => none
  | n, outer, a, .character k :: rest => ofTokens? n outer (a.push (.one k)) rest
  | n, outer, a, .star :: rest => (a.repeat? false).bind fun a => ofTokens? n outer a rest
  | n, outer, a, .plus :: rest => (a.repeat? true).bind fun a => ofTokens? n outer a rest
  | n, outer, a, .reference i :: rest => ofTokens? n outer (a.push (.reference i)) rest
  | n, outer, a, .wordBoundary :: rest => ofTokens? n outer (a.push .wordBoundary) rest
  | n, outer, a, .start :: rest => ofTokens? n outer (a.push .start) rest
  | n, outer, a, .finish :: rest => ofTokens? n outer (a.push .finish) rest
  | n, outer, a, .bar :: rest => ofTokens? n outer a.next rest
  | n, outer, a, .openGroup :: rest =>
    ofTokens? (n + 1) ((.group (n + 1), a) :: outer) .none rest
  | n, outer, a, .openAhead expected :: rest =>
    ofTokens? n ((.ahead expected, a) :: outer) .none rest
  | n, (bracket, before) :: outer, a, .close :: rest =>
    ofTokens? n outer (before.push (bracket.around a.node)) rest
  | _, [], _, .close :: _ => none

def parse? (text : List Char) : Option Node :=
  (Token.ofText? none text).bind fun tokens => ofTokens? 0 [] .none tokens

end Node

def node? (p : Pattern) : Option Node := Node.parse? p.source.toList

end XmlSupport.Pattern
