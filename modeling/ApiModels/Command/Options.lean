import ApiModels.Text.Blank

/-!
# Command line options

The options of a command are described by a table, and the arguments are read by it: `--name VALUE`,
`--name=VALUE`, and with the letter of an option `-n VALUE`, `-nVALUE` and `-n=VALUE`. Every
argument has to belong to an option of the table.
-/

namespace ApiModels

/-- What an option takes. -/
inductive OptionKind where
  /-- It stands alone. -/
  | flag
  /-- It takes a value. -/
  | text
  /-- It takes a value, which is not empty. -/
  | path
  deriving DecidableEq, Repr

/-- An option of a command. -/
structure CommandOption where
  name : String
  letter : Option Char
  kind : OptionKind
  /-- Whether it may be given several times. -/
  isRepeatable : Bool
  deriving DecidableEq, Repr

/-- The options that were given, with their values; a flag has the empty value. -/
abbrev GivenOptions := List (CommandOption × String)

/-- Whether an argument can be the value of the option before it. -/
def isOptionValue (arg : String) : Bool :=
  match arg.toList with
  | '-' :: _ :: _ => false
  | _ => true

/-- The option that an argument names and the value that is attached to it. -/
def namedOption? (table : List CommandOption) (arg : String) :
    Option (CommandOption × Option String) :=
  match arg.toList with
  | '-' :: '-' :: cs => do
    let name := String.ofList (cs.takeWhile (· != '='))
    let option ← table.find? (·.name == name)
    match cs.dropWhile (· != '=') with
    | _ :: value => return (option, some (String.ofList value))
    | [] => return (option, none)
  | '-' :: c :: cs => do
    let option ← table.find? (·.letter == some c)
    match cs with
    | [] => return (option, none)
    | '=' :: value => return (option, some (String.ofList value))
    | value => return (option, some (String.ofList value))
  | _ => none

/-- An option with a value that it can have. -/
def CommandOption.withValue? (option : CommandOption) (value : String) :
    Option (CommandOption × String) :=
  if option.kind = .flag ∨ option.kind = .path ∧ value = "" then none else some (option, value)

/-- The options among arguments, where an option before them may still lack its value. Two hyphens
end the options. -/
def givenOptions (table : List CommandOption) :
    Option CommandOption → List String → Option GivenOptions
  | none, [] => some []
  | some _, [] => none
  | some option, arg :: rest => do
    guard (isOptionValue arg)
    let given ← option.withValue? arg
    return given :: (← givenOptions table none rest)
  | none, arg :: rest =>
    if arg = "--" then if rest.isEmpty then some [] else none
    else
      match namedOption? table arg with
      | none => none
      | some (option, some value) => do
        let given ← option.withValue? value
        return given :: (← givenOptions table none rest)
      | some (option, none) =>
        if option.kind = .flag then do return (option, "") :: (← givenOptions table none rest)
        else givenOptions table (some option) rest

/-- Whether an option that may be given once is given several times. -/
def GivenOptions.hasRepeats : GivenOptions → Bool
  | [] => false
  | (option, _) :: rest =>
    (!option.isRepeatable && rest.any (·.1 == option)) || hasRepeats rest

/-- Reads the options of a command. -/
def readOptions (table : List CommandOption) (args : List String) : Option GivenOptions := do
  let given ← givenOptions table none args
  guard !given.hasRepeats
  return given

namespace GivenOptions

/-- The values of an option. -/
def values (given : GivenOptions) (name : String) : List String :=
  (given.filter (·.1.name == name)).map (·.2)

/-- The value of an option that is given at most once. -/
def value? (given : GivenOptions) (name : String) : Option String := (given.values name).head?

/-- Whether an option is given. -/
def has (given : GivenOptions) (name : String) : Bool := (given.value? name).isSome

end GivenOptions

end ApiModels
