import ApiModels.Json.Reader

/-!
# Skipping a value

The value of a member that a record does not know is skipped. Its text must have the form of a
value, but what it stands for is not looked at: containers nest as deep as they like, numbers have
any size, and escapes need not pair up.
-/

namespace ApiModels.Json

/-- Skips what follows a backslash in a string and gives the number of characters skipped. -/
def skipEscape (cs : List Char) : Except Fault Nat :=
  match cs with
  | [] => .error (.here .endInString [])
  | 'u' :: rest =>
    match hexFour rest with
    | .ok _ => .ok 5
    | .error fault => .error fault
  | c :: _ =>
    if c ∈ ['"', '\\', '/', 'b', 'f', 'n', 'r', 't'] then .ok 1
    else .error (.next .invalidEscape cs)

/-- Skips a string after its opening quote; the first `skip` characters belong to an escape. -/
def skipString (skip : Nat) : List Char → Except Fault (List Char)
  | [] => .error (.here .endInString [])
  | c :: cs =>
    match skip with
    | skip + 1 => skipString skip cs
    | 0 =>
      if c = '"' then .ok cs
      else if c = '\\' then
        match skipEscape cs with
        | .error fault => .error fault
        | .ok used => skipString used cs
      else if c.toNat < 0x20 then .error (.here .controlCharacter (c :: cs))
      else skipString 0 cs

/-- Skips the exponent of a number after its `e`. -/
def skipExponent (cs : List Char) : Except Fault (List Char) :=
  let cs := match cs with
    | '+' :: rest => rest
    | '-' :: rest => rest
    | _ => cs
  match cs with
  | [] => .error (.here .invalidNumber [])
  | c :: rest =>
    if isDigit c then .ok (rest.dropWhile isDigit) else .error (.next .invalidNumber cs)

/-- Skips the rest of a number after its integer digits. -/
def skipFraction (cs : List Char) : Except Fault (List Char) :=
  match cs with
  | '.' :: rest =>
    if (rest.take 1).any isDigit then
      match rest.dropWhile isDigit with
      | 'e' :: rest => skipExponent rest
      | 'E' :: rest => skipExponent rest
      | rest => .ok rest
    else .error (.next .invalidNumber rest)
  | 'e' :: rest => skipExponent rest
  | 'E' :: rest => skipExponent rest
  | _ => .ok cs

/-- Skips a number after its sign. -/
def skipNumber (cs : List Char) : Except Fault (List Char) :=
  match cs with
  | [] => .error (.here .invalidNumber [])
  | c :: tail =>
    if c = '0' then
      if (tail.take 1).any isDigit then .error (.next .invalidNumber tail)
      else skipFraction tail
    else if isDigit c then skipFraction (tail.dropWhile isDigit)
    else .error (.next .invalidNumber cs)

/-- The two kinds of containers. -/
inductive Container where
  | list
  | object
  deriving DecidableEq, Repr

/-- The end of the text inside a container. -/
def Container.atEnd : Container → Cause
  | .list => .endInList
  | .object => .endInObject

/-- The closing bracket. -/
def Container.close : Container → Char
  | .list => ']'
  | .object => '}'

/-- Where the skipping of a value stands. -/
inductive SkipPoint where
  /-- Before a value. -/
  | value
  /-- After a value. -/
  | after
  /-- After an opening bracket. -/
  | opened
  /-- Before an item or a member. -/
  | entry
  deriving DecidableEq, Repr

/-- Skips to the end of a value inside the containers that are open, the innermost first. -/
def skipTo : Nat → SkipPoint → List Container → List Char → Except Fault (List Char)
  | 0, _, _, _ => .error (.here .endInValue [])
  | fuel + 1, .value, opened, cs =>
    match skipSpaces cs with
    | [] => .error (.here .endInValue [])
    | 'n' :: rest => do skipTo fuel .after opened (← word ['u', 'l', 'l'] rest)
    | 't' :: rest => do skipTo fuel .after opened (← word ['r', 'u', 'e'] rest)
    | 'f' :: rest => do skipTo fuel .after opened (← word ['a', 'l', 's', 'e'] rest)
    | '-' :: rest => do skipTo fuel .after opened (← skipNumber rest)
    | '"' :: rest => do skipTo fuel .after opened (← skipString 0 rest)
    | '[' :: rest => skipTo fuel .opened (.list :: opened) rest
    | '{' :: rest => skipTo fuel .opened (.object :: opened) rest
    | c :: rest =>
      if isDigit c then do skipTo fuel .after opened (← skipNumber (c :: rest))
      else .error (.next .expectedValue (c :: rest))
  | _ + 1, .after, [], cs => .ok cs
  | fuel + 1, .after, container :: opened, cs =>
    match skipSpaces cs with
    | [] => .error (.here container.atEnd [])
    | c :: rest =>
      if c = ',' then skipTo fuel .entry (container :: opened) rest
      else if c = container.close then skipTo fuel .after opened rest
      else if container = .list then .error (.next .expectedListCommaOrEnd (c :: rest))
      else .error (.next .expectedObjectCommaOrEnd (c :: rest))
  | _ + 1, .opened, [], cs => .ok cs
  | fuel + 1, .opened, container :: opened, cs =>
    match skipSpaces cs with
    | [] => .error (.here container.atEnd [])
    | c :: rest =>
      if c = container.close then skipTo fuel .after opened rest
      else skipTo fuel .entry (container :: opened) (c :: rest)
  | fuel + 1, .entry, .object :: opened, cs =>
    match skipSpaces cs with
    | [] => .error (.here .endInObject [])
    | '"' :: rest => do
      let rest ← skipString 0 rest
      let rest ← colon rest
      skipTo fuel .value (.object :: opened) rest
    | rest => .error (.next .keyNotString rest)
  | fuel + 1, .entry, opened, cs => skipTo fuel .value opened cs

/-- Skips a value. -/
def skipValue (cs : List Char) : Except Fault (List Char) :=
  skipTo (4 * cs.length + 4) .value [] cs

end ApiModels.Json
