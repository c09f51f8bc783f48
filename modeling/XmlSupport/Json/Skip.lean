import XmlSupport.Json.Scan

/-!
# Passing over a value

A value under a key nobody asks for is checked for its grammar and nothing
else: arrays and objects may nest to any depth, numbers may be out of range and
escapes may be lone surrogates.
-/

namespace XmlSupport.Json

/-- An array or an object that is still open. -/
inductive Frame where
  | list
  | object
  deriving DecidableEq, Repr

/-- What comes next: a value, the first thing behind an opening bracket, or
what follows a finished value. -/
inductive Expectation where
  | value
  | first
  | next
  deriving DecidableEq, Repr

/-- Passes over a scalar value that begins with `c`. -/
def skipScalar (c : Char) (rest : List Char) : Except (Stop Fault) (List Char) :=
  if c = '"' then skipString rest
  else if c = '-' then skipNumber rest
  else if isDigit c then skipNumber (c :: rest)
  else if c = 'n' then readWord "ull".toList rest
  else if c = 't' then readWord "rue".toList rest
  else if c = 'f' then readWord "alse".toList rest
  else .error (.ahead .expectedValue (c :: rest))

/-- Passes over a key and its colon, up to the value. -/
def skipKey (rest : List Char) : Except (Stop Fault) (List Char) :=
  match dropSpace rest with
  | [] => .error (.here .endOfObject [])
  | c :: more =>
    if c = '"' then
      match skipString more with
      | .error stop => .error stop
      | .ok rest =>
        match dropSpace rest with
        | [] => .error (.here .endOfObject [])
        | d :: more => if d = ':' then .ok more else .error (.ahead .expectedColon (d :: more))
    else .error (.ahead .keyNotString (c :: more))

/-- Passes over the key of a member; the items of an array have none. -/
def skipLabel : Frame → List Char → Except (Stop Fault) (List Char)
  | .list, rest => .ok rest
  | .object, rest => skipKey rest

def Frame.close : Frame → Char
  | .list => ']'
  | .object => '\x7d'

def Frame.unfinished : Frame → Fault
  | .list => .endOfList
  | .object => .endOfObject

def Frame.noComma : Frame → Fault
  | .list => .expectedListCommaOrEnd
  | .object => .expectedObjectCommaOrEnd

/-- The open frames stand innermost first. -/
def skipFrom : Nat → Expectation → List Frame → List Char → Except (Stop Fault) (List Char)
  | 0, _, _, rest => .error (.here .expectedValue rest)
  | fuel + 1, .value, frames, rest =>
    match dropSpace rest with
    | [] => .error (.here .endOfValue [])
    | c :: more =>
      if c = '[' then skipFrom fuel .first (.list :: frames) more
      else if c = '\x7b' then skipFrom fuel .first (.object :: frames) more
      else
        match skipScalar c more with
        | .error stop => .error stop
        | .ok rest => skipFrom fuel .next frames rest
  | _ + 1, .first, [], rest => .ok rest
  | fuel + 1, .first, frame :: frames, rest =>
    match dropSpace rest with
    | [] => .error (.here frame.unfinished [])
    | c :: more =>
      if c = frame.close then skipFrom fuel .next frames more
      else
        match skipLabel frame (c :: more) with
        | .error stop => .error stop
        | .ok rest => skipFrom fuel .value (frame :: frames) rest
  | _ + 1, .next, [], rest => .ok rest
  | fuel + 1, .next, frame :: frames, rest =>
    match dropSpace rest with
    | [] => .error (.here frame.unfinished [])
    | c :: more =>
      if c = frame.close then skipFrom fuel .next frames more
      else if c = ',' then
        match skipLabel frame more with
        | .error stop => .error stop
        | .ok rest => skipFrom fuel .value (frame :: frames) rest
      else .error (.ahead frame.noComma (c :: more))

/-- Passes over one value. -/
def skipValue (rest : List Char) : Except (Stop Fault) (List Char) :=
  skipFrom (2 * rest.length + 2) .value [] rest

end XmlSupport.Json
