/-!
# Tests of field values

The value in a directive is a number, a truth value or a pattern. What is none
of these makes the directive unreadable, so the grammar of patterns is checked:
groups and classes close, repetitions have something to repeat, and escapes are
known.
-/

namespace XmlSupport.Log

/-- Letters that a backslash gives a meaning. The two for word boundaries are not supported. -/
def isEscapable (c : Char) : Bool :=
  "dDsSwWAzntrfvaxupUP".toList.contains c
    || (' ' < c && c < '\x7f' && !c.isAlphanum && c != '<' && c != '>')

/-- The text behind a class of characters whose bracket was read, from its first item on; `depth`
counts the open brackets, `low` is the character that a range could begin with. -/
def dropClass? : List Char → Nat → Option Char → Option (List Char)
  | [], _, _ => none
  | ']' :: rest, depth, _ =>
    match depth with
    | 0 => none
    | 1 => some rest
    | d + 1 => dropClass? rest d none
  | '[' :: ':' :: rest, depth, _ => dropClass? rest depth none
  | '[' :: '^' :: rest, depth, _ => dropClass? rest (depth + 1) none
  | '[' :: rest, depth, _ => dropClass? rest (depth + 1) none
  | '\\' :: c :: rest, depth, _ =>
    if isEscapable c && c != 'A' && c != 'z' then dropClass? rest depth none else none
  | '-' :: c :: rest, depth, some low =>
    if c = ']' || c = '[' || c = '\\' || c = '-' then dropClass? (c :: rest) depth none
    else if c < low then none
    else dropClass? rest depth none
  | c :: rest, depth, _ => dropClass? rest depth (some c)

/-- The text behind a class. A closing bracket in front is an item of the class. -/
def dropWholeClass? (cs : List Char) : Option (List Char) :=
  match cs with
  | '^' :: ']' :: rest => dropClass? rest 1 none
  | '^' :: rest => dropClass? rest 1 none
  | ']' :: rest => dropClass? rest 1 none
  | cs => dropClass? cs 1 none

def isGroupName (name : List Char) : Bool :=
  match name with
  | [] => false
  | c :: rest =>
    (c.isAlpha || c = '_') && rest.all fun c => c.isAlphanum || "_.[]".toList.contains c

/-- The text behind the beginning of a group, and whether the group goes on. -/
def dropGroupMark? (cs : List Char) : Option (List Char × Bool) :=
  match cs with
  | '?' :: rest =>
    let named (rest : List Char) : Option (List Char × Bool) :=
      match rest.dropWhile (· != '>') with
      | _ :: after => if isGroupName (rest.takeWhile (· != '>')) then some (after, true) else none
      | [] => none
    match rest with
    | 'P' :: '<' :: rest => named rest
    | '<' :: rest => named rest
    | rest =>
      let isFlag (c : Char) : Bool := "imsUuxR-".toList.contains c
      let flags := rest.takeWhile isFlag
      match rest.dropWhile isFlag with
      | ':' :: rest => if flags.getLast? = some '-' then none else some (rest, true)
      | ')' :: rest =>
        if flags.isEmpty || flags.getLast? = some '-' then none else some (rest, false)
      | _ => none
  | cs => some (cs, true)

/-- Reads a pattern with `depth` open groups; `repeatable` tells whether a repetition may follow. -/
def isPattern : Nat → Nat → Bool → List Char → Bool
  | 0, _, _, _ => false
  | _ + 1, depth, _, [] => depth = 0
  | fuel + 1, depth, repeatable, c :: rest =>
    match c with
    | '(' =>
      match dropGroupMark? rest with
      | some (rest, true) => isPattern fuel (depth + 1) false rest
      | some (rest, false) => isPattern fuel depth false rest
      | none => false
    | ')' => 0 < depth && isPattern fuel (depth - 1) true rest
    | '|' => isPattern fuel depth false rest
    | '[' =>
      match dropWholeClass? rest with
      | some rest => isPattern fuel depth true rest
      | none => false
    | '\\' =>
      match rest with
      | c :: rest => isEscapable c && isPattern fuel depth true rest
      | [] => false
    | '\x7b' => false
    | c =>
      if c = '*' || c = '+' || c = '?' then
        repeatable && isPattern fuel depth true (if rest.head? = some '?' then rest.tail else rest)
      else isPattern fuel depth true rest

/-- A number with a plus sign in front, which no pattern may have. -/
def isSignedNumber (cs : List Char) : Bool :=
  match cs with
  | '+' :: rest =>
    let word := String.ofList (rest.map Char.toLower)
    let mantissa := rest.takeWhile fun c => c.isDigit || c = '.'
    let exponent := rest.drop mantissa.length
    let digitsOf (cs : List Char) : List Char :=
      match cs with
      | '+' :: cs => cs
      | '-' :: cs => cs
      | cs => cs
    ["inf", "infinity", "nan"].contains word
      || (mantissa.any Char.isDigit && mantissa.count '.' ≤ 1
        && match exponent with
          | [] => true
          | e :: rest =>
            (e = 'e' || e = 'E') && ! (digitsOf rest).isEmpty &&
              (digitsOf rest).all Char.isDigit)
  | _ => false

def isValueTest (value : List Char) : Bool :=
  isSignedNumber value || isPattern (value.length + 1) 0 false value

end XmlSupport.Log
