import XmlSupport.Json.Scan

/-!
# Reading a value

The value of a whole document text. Objects come out with their keys in
ascending order, the last of duplicate keys winning.
-/

namespace XmlSupport.Json

/-- A scalar value that begins with `c`. -/
def readScalar (c : Char) (rest : List Char) : Read Fault Json :=
  if c = '"' then (readString rest).map fun (s, rest) => (.string s, rest)
  else if c = '-' then (readNumber true rest).map fun (n, rest) => (.number n, rest)
  else if isDigit c then (readNumber false (c :: rest)).map fun (n, rest) => (.number n, rest)
  else if c = 'n' then (readWord "ull".toList rest).map (Json.null, ·)
  else if c = 't' then (readWord "rue".toList rest).map (Json.bool true, ·)
  else if c = 'f' then (readWord "alse".toList rest).map (Json.bool false, ·)
  else .error (.ahead .expectedValue (c :: rest))

/-- A key whose opening quote is ahead, and its colon. -/
def readKey (rest : List Char) : Read Fault String :=
  match rest with
  | '"' :: more =>
    match readString more with
    | .error stop => .error stop
    | .ok (key, rest) =>
      match dropSpace rest with
      | [] => .error (.here .endOfObject [])
      | ':' :: more => .ok (key, more)
      | more => .error (.ahead .expectedColon more)
  | more => .error (.ahead .keyNotString more)

mutual

def readValueFrom : Nat → List Char → Read Fault Json
  | 0, rest => .error (.here .expectedValue rest)
  | fuel + 1, rest =>
    match dropSpace rest with
    | [] => .error (.here .endOfValue [])
    | '[' :: more =>
      match dropSpace more with
      | ']' :: rest => .ok (.array [], rest)
      | [] => .error (.here .endOfList [])
      | rest =>
        match readItems fuel rest with
        | .error stop => .error stop
        | .ok (items, rest) => .ok (.array items, rest)
    | '\x7b' :: more =>
      match dropSpace more with
      | '\x7d' :: rest => .ok (.object [], rest)
      | [] => .error (.here .endOfObject [])
      | rest =>
        match readMembers fuel rest with
        | .error stop => .error stop
        | .ok (members, rest) => .ok (ofMembers members, rest)
    | c :: more => readScalar c more

/-- The items of an array, at least one, and its closing bracket. -/
def readItems : Nat → List Char → Read Fault (List Json)
  | 0, rest => .error (.here .expectedValue rest)
  | fuel + 1, rest =>
    match readValueFrom fuel rest with
    | .error stop => .error stop
    | .ok (v, rest) =>
      match dropSpace rest with
      | [] => .error (.here .endOfList [])
      | ']' :: rest => .ok ([v], rest)
      | ',' :: rest =>
        match dropSpace rest with
        | ']' :: more => .error (.ahead .trailingComma (']' :: more))
        | rest =>
          match readItems fuel rest with
          | .error stop => .error stop
          | .ok (items, rest) => .ok (v :: items, rest)
      | rest => .error (.ahead .expectedListCommaOrEnd rest)

/-- The members of an object, at least one, and its closing brace. -/
def readMembers : Nat → List Char → Read Fault (List (String × Json))
  | 0, rest => .error (.here .expectedValue rest)
  | fuel + 1, rest =>
    match readKey rest with
    | .error stop => .error stop
    | .ok (key, rest) =>
      match readValueFrom fuel rest with
      | .error stop => .error stop
      | .ok (v, rest) =>
        match dropSpace rest with
        | [] => .error (.here .endOfObject [])
        | '\x7d' :: rest => .ok ([(key, v)], rest)
        | ',' :: rest =>
          match dropSpace rest with
          | '\x7d' :: more => .error (.ahead .trailingComma ('\x7d' :: more))
          | [] => .error (.here .endOfValue [])
          | rest =>
            match readMembers fuel rest with
            | .error stop => .error stop
            | .ok (members, rest) => .ok ((key, v) :: members, rest)
        | rest => .error (.ahead .expectedObjectCommaOrEnd rest)

end

/-- One value from the front of a text. -/
def readValue (rest : List Char) : Read Fault Json := readValueFrom (2 * rest.length + 2) rest

/-- The value of a text that holds nothing else. -/
def parse (text : List Char) : Except (Stop Fault) Json :=
  match readValue text with
  | .error stop => .error stop
  | .ok (v, rest) =>
    match dropSpace rest with
    | [] => .ok v
    | rest => .error (.ahead .trailingCharacters rest)

end XmlSupport.Json
