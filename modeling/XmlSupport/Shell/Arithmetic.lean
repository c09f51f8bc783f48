import XmlSupport.Shell.Format

/-!
# Arithmetic of scripts

Whole numbers of 64 bits with the usual operators. An expression is read into a
tree first; only what decides about the value is evaluated, and assignments
count from there on.
-/

namespace XmlSupport.Shell.Arithmetic

inductive Operator where
  | times
  | divide
  | remainder
  | plus
  | minus
  | shiftLeft
  | shiftRight
  | less
  | lessOrEqual
  | greater
  | greaterOrEqual
  | equal
  | unequal
  | bitAnd
  | bitXor
  | bitOr
  deriving DecidableEq, Repr

inductive Sign where
  | plus
  | minus
  | complement
  | not
  deriving DecidableEq, Repr

inductive Expression where
  | number (n : Int)
  | name (name : Text)
  | signed (sign : Sign) (e : Expression)
  | binary (operator : Operator) (a b : Expression)
  | both (a b : Expression)
  | either (a b : Expression)
  | choose (condition a b : Expression)
  | assign (name : Text) (operator : Option Operator) (e : Expression)

/-- Why an expression has no value. -/
inductive ArithmeticFault where
  | noPrimary
  | noEnd
  | noClosing
  | noColon
  | divisionByZero
  | notANumber (text : Text)
  deriving DecidableEq, Repr

namespace ArithmeticFault

/-- What is said about a fault in an expression. -/
def message (expression : Text) : ArithmeticFault → Text
  | .notANumber text => say "Illegal number: " ++ text
  | fault =>
    let cause := match fault with
      | .noPrimary => "expecting primary"
      | .noEnd => "expecting EOF"
      | .noClosing => "expecting ')'"
      | .noColon => "expecting ':'"
      | _ => "division by zero"
    say ("arithmetic expression: " ++ cause ++ ": \"") ++ expression ++ ['"']

end ArithmeticFault

/-- What is left of a number that has grown out of 64 bits. -/
def wrap (n : Int) : Int := n.bmod 0x10000000000000000

def dropSpace (rest : Text) : Text := rest.dropWhile fun c => c = ' ' || c = '\t' || c = '\n'

/-- The operator ahead, how strongly it binds, and the text behind it. -/
def operator? (rest : Text) : Option (Operator × Nat × Text) :=
  match rest with
  | '|' :: '|' :: _ => none
  | '&' :: '&' :: _ => none
  | '|' :: r => some (.bitOr, 1, r)
  | '^' :: r => some (.bitXor, 2, r)
  | '&' :: r => some (.bitAnd, 3, r)
  | '=' :: '=' :: r => some (.equal, 4, r)
  | '!' :: '=' :: r => some (.unequal, 4, r)
  | '<' :: '<' :: r => some (.shiftLeft, 6, r)
  | '>' :: '>' :: r => some (.shiftRight, 6, r)
  | '<' :: '=' :: r => some (.lessOrEqual, 5, r)
  | '>' :: '=' :: r => some (.greaterOrEqual, 5, r)
  | '<' :: r => some (.less, 5, r)
  | '>' :: r => some (.greater, 5, r)
  | '+' :: r => some (.plus, 7, r)
  | '-' :: r => some (.minus, 7, r)
  | '*' :: r => some (.times, 8, r)
  | '/' :: r => some (.divide, 8, r)
  | '%' :: r => some (.remainder, 8, r)
  | _ => none

/-- An equals sign that assigns, with the operator in front of it if there is one. -/
def assignment? (rest : Text) : Option (Option Operator × Text) :=
  match rest with
  | '=' :: '=' :: _ => none
  | '=' :: r => some (none, r)
  | rest =>
    match operator? rest with
    | some (operator, level, '=' :: r) =>
      if level = 4 || level = 5 then none else some (some operator, r)
    | _ => none

def truth (b : Bool) : Int := if b then 1 else 0

/-- A number as its 64 bits. -/
def bits (n : Int) : Nat := (n % 0x10000000000000000).toNat

def ofBits (n : Nat) : Int := wrap n

def apply (operator : Operator) (a b : Int) : Except ArithmeticFault Int :=
  match operator with
  | .times => .ok (wrap (a * b))
  | .divide => if b = 0 then .error .divisionByZero else .ok (wrap (a.tdiv b))
  | .remainder => if b = 0 then .error .divisionByZero else .ok (a.tmod b)
  | .plus => .ok (wrap (a + b))
  | .minus => .ok (wrap (a - b))
  | .shiftLeft => .ok (wrap (a * Nat.pow 2 (bits b % 64)))
  | .shiftRight => .ok (a / Nat.pow 2 (bits b % 64))
  | .less => .ok (truth (a < b))
  | .lessOrEqual => .ok (truth (a ≤ b))
  | .greater => .ok (truth (a > b))
  | .greaterOrEqual => .ok (truth (a ≥ b))
  | .equal => .ok (truth (a == b))
  | .unequal => .ok (truth (a != b))
  | .bitAnd => .ok (ofBits (Nat.land (bits a) (bits b)))
  | .bitXor => .ok (ofBits (Nat.xor (bits a) (bits b)))
  | .bitOr => .ok (ofBits (Nat.lor (bits a) (bits b)))

/-- The number at the beginning of a text, its base shown by its first digits. -/
def readNumber (rest : Text) : Int × Text :=
  let digits (base : Nat) (rest : Text) : Nat × Text :=
    let word := rest.takeWhile fun c => (Format.digitsValue base [c]).isSome
    ((Format.digitsValue base word).getD 0, rest.drop word.length)
  let (n, rest) := match rest with
    | '0' :: 'x' :: more => digits 16 more
    | '0' :: 'X' :: more => digits 16 more
    | '0' :: more => digits 8 more
    | rest => digits 10 rest
  (min n 0x7FFFFFFFFFFFFFFF, rest)

mutual

def readOperand : Nat → Text → Except ArithmeticFault (Expression × Text)
  | 0, _ => .error .noPrimary
  | fuel + 1, rest =>
    match dropSpace rest with
    | '(' :: more => do
      let (e, rest) ← readAssignment fuel more
      match dropSpace rest with
      | ')' :: rest => return (e, rest)
      | _ => throw .noClosing
    | '-' :: more => do
      let (e, rest) ← readOperand fuel more
      return (.signed .minus e, rest)
    | '+' :: more => do
      let (e, rest) ← readOperand fuel more
      return (.signed .plus e, rest)
    | '~' :: more => do
      let (e, rest) ← readOperand fuel more
      return (.signed .complement e, rest)
    | '!' :: more => do
      let (e, rest) ← readOperand fuel more
      return (.signed .not e, rest)
    | c :: more =>
      if c.isDigit then
        let (n, rest) := readNumber (c :: more)
        .ok (.number n, rest)
      else if isLetter c then
        .ok (.name ((c :: more).takeWhile isNamePart), (c :: more).dropWhile isNamePart)
      else .error .noPrimary
    | [] => .error .noPrimary

/-- An expression of operators that bind more strongly than `level`. -/
def readAbove : Nat → Nat → Text → Except ArithmeticFault (Expression × Text)
  | 0, _, _ => .error .noPrimary
  | fuel + 1, level, rest => do
    let (e, rest) ← readOperand fuel rest
    readOperators fuel level e rest

def readOperators : Nat → Nat → Expression → Text →
    Except ArithmeticFault (Expression × Text)
  | 0, _, _, _ => .error .noPrimary
  | fuel + 1, level, e, rest =>
    match operator? (dropSpace rest) with
    | some (operator, binding, more) =>
      if level < binding then do
        let (second, rest) ← readAbove fuel binding more
        readOperators fuel level (.binary operator e second) rest
      else .ok (e, rest)
    | none => .ok (e, rest)

def readBoth : Nat → Text → Except ArithmeticFault (Expression × Text)
  | 0, _ => .error .noPrimary
  | fuel + 1, rest => do
    let (e, rest) ← readAbove fuel 0 rest
    match dropSpace rest with
    | '&' :: '&' :: rest =>
      let (second, rest) ← readBoth fuel rest
      return (.both e second, rest)
    | rest => return (e, rest)

def readEither : Nat → Text → Except ArithmeticFault (Expression × Text)
  | 0, _ => .error .noPrimary
  | fuel + 1, rest => do
    let (e, rest) ← readBoth fuel rest
    match dropSpace rest with
    | '|' :: '|' :: rest =>
      let (second, rest) ← readEither fuel rest
      return (.either e second, rest)
    | rest => return (e, rest)

def readChoice : Nat → Text → Except ArithmeticFault (Expression × Text)
  | 0, _ => .error .noPrimary
  | fuel + 1, rest => do
    let (condition, rest) ← readEither fuel rest
    match dropSpace rest with
    | '?' :: rest =>
      let (a, rest) ← readAssignment fuel rest
      match dropSpace rest with
      | ':' :: rest =>
        let (b, rest) ← readChoice fuel rest
        return (.choose condition a b, rest)
      | _ => throw .noColon
    | rest => return (condition, rest)

def readAssignment : Nat → Text → Except ArithmeticFault (Expression × Text)
  | 0, _ => .error .noPrimary
  | fuel + 1, rest =>
    let rest := dropSpace rest
    let name := if (rest.head?.map isLetter).getD false then rest.takeWhile isNamePart else []
    match name.isEmpty, assignment? (dropSpace (rest.drop name.length)) with
    | false, some (operator, rest) => do
      let (e, rest) ← readAssignment fuel rest
      return (.assign name operator e, rest)
    | _, _ => readChoice fuel rest

end

def read (text : Text) : Except ArithmeticFault Expression :=
  if (dropSpace text).isEmpty then .ok (.number 0)
  else do
    let (e, rest) ← readAssignment (12 * text.length + 24) text
    if (dropSpace rest).isEmpty then return e else throw .noEnd

/-- The number that a text of a variable stands for. -/
def numberOf (text : Text) : Except ArithmeticFault Int :=
  let rest := dropSpace text
  let (isNegative, rest) := match rest with
    | '-' :: rest => (true, rest)
    | '+' :: rest => (false, rest)
    | rest => (false, rest)
  let (n, behind) := readNumber rest
  if rest.isEmpty && (dropSpace text).isEmpty then .ok 0
  else if (rest.head?.map Char.isDigit).getD false && (dropSpace behind).isEmpty then
    .ok (if isNegative then -n else n)
  else .error (.notANumber text)

/-- The value of an expression, and the variables it has assigned. -/
def evaluate (lookUp : Text → Text) :
    Expression → List (Text × Int) → Except ArithmeticFault (Int × List (Text × Int))
  | .number n, assigned => .ok (n, assigned)
  | .name name, assigned => (valueOf lookUp assigned name).map fun n => (n, assigned)
  | .signed sign e, assigned => do
    let (n, assigned) ← evaluate lookUp e assigned
    return (match sign with
      | .plus => n
      | .minus => wrap (-n)
      | .complement => -n - 1
      | .not => truth (n == 0), assigned)
  | .binary operator a b, assigned => do
    let (m, assigned) ← evaluate lookUp a assigned
    let (n, assigned) ← evaluate lookUp b assigned
    return (← apply operator m n, assigned)
  | .both a b, assigned => do
    let (m, assigned) ← evaluate lookUp a assigned
    if m = 0 then return (0, assigned)
    else
      let (n, assigned) ← evaluate lookUp b assigned
      return (truth (n != 0), assigned)
  | .either a b, assigned => do
    let (m, assigned) ← evaluate lookUp a assigned
    if m != 0 then return (1, assigned)
    else
      let (n, assigned) ← evaluate lookUp b assigned
      return (truth (n != 0), assigned)
  | .choose condition a b, assigned => do
    let (m, assigned) ← evaluate lookUp condition assigned
    if m != 0 then evaluate lookUp a assigned else evaluate lookUp b assigned
  | .assign name operator e, assigned => do
    let (n, assigned) ← evaluate lookUp e assigned
    match operator with
    | none => return (n, (name, n) :: assigned)
    | some operator =>
      let n ← apply operator (← valueOf lookUp assigned name) n
      return (n, (name, n) :: assigned)
where
  valueOf (lookUp : Text → Text) (assigned : List (Text × Int)) (name : Text) :
      Except ArithmeticFault Int :=
    match assigned.lookup name with
    | some n => .ok n
    | none => numberOf (lookUp name)

end XmlSupport.Shell.Arithmetic
