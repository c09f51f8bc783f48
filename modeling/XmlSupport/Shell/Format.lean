import XmlSupport.Shell.Text

/-!
# Formatted output of scripts

What `echo` and `printf` write. Escapes name bytes, in octal or by a letter, and
one of them ends all output.
-/

namespace XmlSupport.Shell.Format

def octalDigit? (c : Char) : Option Nat :=
  if '0' ≤ c ∧ c ≤ '7' then some (c.toNat - 48) else none

/-- At most `n` octal digits. -/
def takeOctal : Nat → Nat → Text → Nat × Text
  | 0, value, rest => (value, rest)
  | _ + 1, value, [] => (value, [])
  | n + 1, value, c :: rest =>
    match octalDigit? c with
    | some d => takeOctal n (value * 8 + d) rest
    | none => (value, c :: rest)

def byte (n : Nat) : Char := Char.ofNat (n % 256)

def letterEscape? (c : Char) : Option Char :=
  if c = 'a' then some '\x07'
  else if c = 'b' then some '\x08'
  else if c = 'f' then some '\x0c'
  else if c = 'n' then some '\n'
  else if c = 'r' then some '\r'
  else if c = 't' then some '\t'
  else if c = 'v' then some '\x0b'
  else if c = '\\' then some '\\'
  else none

/-- An escape behind its backslash. -/
def escape : Text → Text × Text
  | [] => (['\\'], [])
  | c :: rest =>
    if (octalDigit? c).isSome then
      let (n, rest) := takeOctal 3 0 (c :: rest)
      ([byte n], rest)
    else
      match letterEscape? c with
      | some d => ([d], rest)
      | none => (['\\', c], rest)

/-- Replaces escapes; the flag tells whether all output ends here. -/
def unescape : Nat → Text → Text × Bool
  | 0, _ => ([], false)
  | _, [] => ([], false)
  | fuel + 1, '\\' :: 'c' :: _ => let _ := fuel; ([], true)
  | fuel + 1, '\\' :: '0' :: rest =>
    let (n, rest) := takeOctal 3 0 rest
    let (t, stop) := unescape fuel rest
    (byte n :: t, stop)
  | fuel + 1, '\\' :: rest =>
    let (front, rest) := escape rest
    let (t, stop) := unescape fuel rest
    (front ++ t, stop)
  | fuel + 1, c :: rest =>
    let (t, stop) := unescape fuel rest
    (c :: t, stop)

def expand (text : Text) : Text × Bool := unescape (text.length + 1) text

/-- Arguments with a blank between them and a line end behind, unless `-n` comes first. -/
def echo (args : List Text) : Text :=
  let (ending, args) := match args with
    | ['-', 'n'] :: rest => ([], rest)
    | args => (['\n'], args)
  let (text, stop) := expand ([' '].intercalate args)
  if stop then text else text ++ ending

structure Spec where
  left : Bool
  plus : Bool
  space : Bool
  zero : Bool
  alternate : Bool
  width : Nat
  precision : Option Nat

def takeFlags (spec : Spec) : Text → Spec × Text
  | '-' :: rest => takeFlags { spec with left := true } rest
  | '+' :: rest => takeFlags { spec with plus := true } rest
  | ' ' :: rest => takeFlags { spec with space := true } rest
  | '0' :: rest => takeFlags { spec with zero := true } rest
  | '#' :: rest => takeFlags { spec with alternate := true } rest
  | rest => (spec, rest)

def number (text : Text) : Nat := (String.ofList text).toNat?.getD 0

/-- A number of a specification, which may also stand among the arguments. -/
def takeCount (args : List Text) : Text → Nat × Text × List Text
  | '*' :: rest => (number (args.headD []), rest, args.drop 1)
  | rest => (number (rest.takeWhile Char.isDigit), rest.dropWhile Char.isDigit, args)

def takeSpec (args : List Text) (rest : Text) : Spec × Text × List Text :=
  let (spec, rest) := takeFlags ⟨false, false, false, false, false, 0, none⟩ rest
  let (width, rest, args) := takeCount args rest
  match rest with
  | '.' :: rest =>
    let (precision, rest, args) := takeCount args rest
    ({ spec with width := width, precision := some precision }, rest, args)
  | rest => ({ spec with width := width }, rest, args)

/-- Fills a text up to the width. -/
def pad (spec : Spec) (text : Text) : Text :=
  let fill := List.replicate (spec.width - text.length) ' '
  if spec.left then text ++ fill else fill ++ text

def digitsIn (base n : Nat) : Text := Nat.toDigits base n

/-- A number with its sign, zeros between the two where they are asked for. -/
def padNumber (spec : Spec) (sign digits : Text) : Text :=
  match spec.precision with
  | some p => pad spec (sign ++ List.replicate (p - digits.length) '0' ++ digits)
  | none =>
    if spec.zero && !spec.left then
      sign ++ List.replicate (spec.width - sign.length - digits.length) '0' ++ digits
    else pad spec (sign ++ digits)

def hexDigit? (c : Char) : Option Nat :=
  if '0' ≤ c ∧ c ≤ '9' then some (c.toNat - 48)
  else if 'a' ≤ c ∧ c ≤ 'f' then some (c.toNat - 87)
  else if 'A' ≤ c ∧ c ≤ 'F' then some (c.toNat - 55)
  else none

def digitsValue (base : Nat) (text : Text) : Option Nat :=
  text.foldlM (fun n c => do
    let d ← hexDigit? c
    if d < base then some (n * base + d) else none) 0

/-- A natural number in decimal, or in octal or hexadecimal by its first digits. -/
def natural? (text : Text) : Option Nat :=
  match text with
  | '0' :: 'x' :: rest => if rest.isEmpty then none else digitsValue 16 rest
  | '0' :: 'X' :: rest => if rest.isEmpty then none else digitsValue 16 rest
  | '0' :: rest => digitsValue 8 rest
  | [] => none
  | _ => digitsValue 10 text

/-- The number that an argument stands for: a quote in front names a character. -/
def integer? (text : Text) : Option Int :=
  match text.dropWhile (· == ' ') with
  | '"' :: rest => some (rest.headD '\x00').toNat
  | '\'' :: rest => some (rest.headD '\x00').toNat
  | '-' :: rest => (natural? rest).map fun n => -(n : Int)
  | '+' :: rest => (natural? rest).map fun n => (n : Int)
  | rest => (natural? rest).map fun n => (n : Int)

def unsigned (n : Int) : Nat := (n % 0x10000000000000000).toNat

/-- One conversion: its text, whether its argument fits, and whether all output ends. -/
def convert (spec : Spec) (kind : Char) (arg : Option Text) : Text × Bool × Bool :=
  let text := arg.getD []
  let value? := if arg.isNone then some 0 else integer? text
  let value := value?.getD 0
  let cut (t : Text) : Text := match spec.precision with
    | some p => t.take p
    | none => t
  if kind = 's' then (pad spec (cut text), true, false)
  else if kind = 'b' then
    let (t, stop) := expand text
    (pad spec (cut t), true, stop)
  else if kind = 'c' then (pad spec (text.take 1), true, false)
  else if kind = 'd' || kind = 'i' then
    let sign :=
      if value < 0 then ['-'] else if spec.plus then ['+'] else if spec.space then [' '] else []
    (padNumber spec sign (digitsIn 10 value.natAbs), value?.isSome, false)
  else if kind = 'u' then (padNumber spec [] (digitsIn 10 (unsigned value)), value?.isSome, false)
  else if kind = 'o' then (padNumber spec [] (digitsIn 8 (unsigned value)), value?.isSome, false)
  else if kind = 'x' then
    (padNumber spec (if spec.alternate then ['0', 'x'] else []) (digitsIn 16 (unsigned value)),
      value?.isSome, false)
  else
    (padNumber spec (if spec.alternate then ['0', 'X'] else [])
      ((digitsIn 16 (unsigned value)).map Char.toUpper), value?.isSome, false)

structure Printed where
  text : Text
  /-- Arguments that are no numbers where numbers are due. -/
  refused : List Text
  rest : List Text
  stopped : Bool

def knownKinds : List Char := "sbcdiuoxX".toList

/-- One pass over a format. -/
def pass : Nat → Text → List Text → Printed
  | 0, _, args => ⟨[], [], args, true⟩
  | _, [], args => ⟨[], [], args, false⟩
  | fuel + 1, '%' :: '%' :: rest, args =>
    let p := pass fuel rest args
    { p with text := '%' :: p.text }
  | fuel + 1, '%' :: rest, args =>
    match takeSpec args rest with
    | (spec, kind :: rest, args) =>
      if knownKinds.contains kind then
        let (text, fits, stop) := convert spec kind args.head?
        let refused := if fits then [] else [args.headD []]
        if stop then ⟨text, refused, args.drop 1, true⟩
        else
          let p := pass fuel rest (args.drop 1)
          { p with text := text ++ p.text, refused := refused ++ p.refused }
      else ⟨[], ['%' :: [kind]], args, true⟩
    | (_, [], args) => ⟨[], [['%']], args, true⟩
  | fuel + 1, '\\' :: rest, args =>
    let (front, rest) := escape rest
    let p := pass fuel rest args
    { p with text := front ++ p.text }
  | fuel + 1, c :: rest, args =>
    let p := pass fuel rest args
    { p with text := c :: p.text }

/-- A format is used again for as long as it takes arguments and there are some left. -/
def passes (format : Text) : Nat → List Text → Text × List Text
  | 0, _ => ([], [])
  | fuel + 1, args =>
    let p := pass (format.length + 1) format args
    if p.stopped || p.rest.isEmpty || p.rest.length = args.length then (p.text, p.refused)
    else
      let (text, refused) := passes format fuel p.rest
      (p.text ++ text, p.refused ++ refused)

/-- The text of a format and its arguments, and the arguments that do not fit. -/
def printf (format : Text) (args : List Text) : Text × List Text :=
  passes format (args.length + 1) args

end XmlSupport.Shell.Format
