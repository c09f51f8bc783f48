import XmlSupport.Log.Entry

/-!
# How much is logged
-/

namespace XmlSupport.Log

/-- The finest level that is still logged, errors being `1`. -/
abbrev Verbosity : Type := Nat

def Level.rank : Level → Nat
  | .warn => 2
  | .info => 3
  | .debug => 4

namespace Verbosity

def names : List (String × Verbosity) :=
  [("off", 0), ("error", 1), ("warn", 2), ("info", 3), ("debug", 4), ("trace", 5)]

def finest : Verbosity := 5

def lower (c : Char) : Char := if 'A' ≤ c ∧ c ≤ 'Z' then Char.ofNat (c.toNat + 32) else c

/-- The number that a text of digits stands for, a plus sign in front allowed. -/
def number? (cs : List Char) : Option Nat :=
  let digits := match cs with
    | '+' :: rest => rest
    | cs => cs
  if digits.isEmpty || digits.any fun c => !c.isDigit then none
  else some (digits.foldl (fun n c => n * 10 + (c.toNat - 48)) 0)

/-- A level by its number or by its name in any case. -/
def parse (cs : List Char) : Option Verbosity :=
  match number? cs with
  | some n => if n ≤ finest then some n else none
  | none => if cs.isEmpty then some 1 else names.lookup (String.ofList (cs.map lower))

end Verbosity
end XmlSupport.Log
