import PaymentChannel.CommandLine.Level

/-! The words of a command line, read from left to right. A word that names a level below leads
there; the level above is finished only after that. The value of an option, given as a word of its
own, is judged when the next option or argument comes, so that help asked for before that is given;
a value in the same word is judged at once. -/
namespace PaymentChannel.CommandLine

/-- Why no command is run. -/
inductive Refusal
  /-- Help or the version was asked for. -/
  | information
  | misuse
deriving DecidableEq

def Refusal.exitCode : Refusal → UInt8
  | .information => 0
  | .misuse => 2

/-- What a word is by its dashes. -/
inductive Shape
  | plain
  /-- Two dashes alone: all words after it are arguments. -/
  | divider
  | long (name : String) (value : Option String)
  | short (letter : Char) (value : Option String)

/-- What follows the name of an option in the same word, without an equals sign in front. -/
def attached : List Char → Option String
  | [] => none
  | '=' :: value => some (String.ofList value)
  | value => some (String.ofList value)

/-- A single dash is a plain word. -/
def shape (word : String) : Shape :=
  match word.toList with
  | ['-', '-'] => .divider
  | '-' :: '-' :: body =>
    .long (String.ofList (body.takeWhile (· != '='))) (attached (body.dropWhile (· != '=')))
  | '-' :: letter :: rest => .short letter (attached rest)
  | _ => .plain

/-- What was read at one level. -/
structure Reading where
  values : List (Parameter × String) := []
  /-- The parameter named last, with its value unless that is still to come. -/
  pending : Option (Parameter × Option String) := none
  divided : Bool := false

namespace Reading

def isAwaiting (reading : Reading) : Bool :=
  match reading.pending with
  | some (_, none) => true
  | _ => false

/-- A parameter is given at most once. -/
def give (reading : Reading) (level : Level) (parameter : Parameter) (value : String) :
    Except Refusal Reading :=
  if (reading.values.lookup parameter).isSome || !level.accepts parameter value then .error .misuse
  else .ok { reading with values := reading.values ++ [(parameter, value)] }

/-- Judges what is pending. -/
def settle (reading : Reading) (level : Level) : Except Refusal Reading :=
  match reading.pending with
  | none => .ok reading
  | some (_, none) => .error .misuse
  | some (parameter, some value) => { reading with pending := none }.give level parameter value

/-- Takes a plain word as the argument of the level. -/
def takeArgument (reading : Reading) (level : Level) (word : String) : Except Refusal Reading := do
  let reading ← reading.settle level
  if .argument ∈ level.parameters ∧ (reading.values.lookup .argument).isNone then
    return { reading with pending := some (.argument, some word) }
  else throw .misuse

def takeOption (reading : Reading) (level : Level) (parameter : Option Parameter)
    (value : Option String) : Except Refusal Reading := do
  match parameter, value with
  | none, _ => throw .misuse
  | some parameter, some value => (← reading.settle level).give level parameter value
  | some parameter, none => return { ← reading.settle level with pending := some (parameter, none) }

/-- Takes a word that leads to no other level. -/
def take (reading : Reading) (level : Level) (word : String) : Except Refusal Reading :=
  if reading.divided then reading.takeArgument level word
  else
    match shape word with
    | .divider => .ok { reading with divided := true }
    | .plain =>
      match reading.pending with
      | some (parameter, none) => .ok { reading with pending := some (parameter, some word) }
      | _ => reading.takeArgument level word
    | .long name value =>
      if level.flags.any (·.1 == name) then do
        if value.isSome then throw .misuse
        let _ ← reading.settle level
        throw .information
      else reading.takeOption level (level.parameters.find? (·.long? == some name)) value
    | .short letter value =>
      if level.flags.any (·.2 == letter) then do
        let _ ← reading.settle level
        throw .information
      else reading.takeOption level (level.parameters.find? (·.letter? == some letter)) value

/-- The values of a level whose words have all been read. -/
def finish (reading : Reading) (level : Level) : Except Refusal (List (Parameter × String)) := do
  let reading ← reading.settle level
  let isMissing (parameter : Parameter) : Bool :=
    parameter.isRequired && (reading.values.lookup parameter).isNone
  if level.parameters.any isMissing then throw .misuse
  return reading.values

end Reading

/-- The word that asks for help on a level or, with more words, on one below. -/
def helpWord : String := "help"

def Level.takesHelp (level : Level) (word : String) : Bool :=
  word == helpWord && !level.commands.isEmpty

/-- What comes of asking for help on the level that the words lead to. -/
def helpOn (level : Level) : List String → Refusal
  | [] => .information
  | word :: rest =>
    match level.commands.lookup word with
    | some inner => helpOn inner rest
    | none => if level.takesHelp word && rest.isEmpty then .information else .misuse

/-- The level that the words lead to, and the values given at each level on the way. -/
structure Arguments where
  level : Level
  values : List (Parameter × String)

/-- Reads the words of a level, after some of its words. -/
def read (level : Level) (reading : Reading) : List String → Except Refusal Arguments
  | [] => do
    let values ← reading.finish level
    if level.commands.isEmpty then return ⟨level, values⟩ else throw .misuse
  | word :: rest =>
    if reading.divided || reading.isAwaiting then do
      read level (← reading.take level word) rest
    else
      match level.commands.lookup word with
      | some inner => do
        let arguments ← read inner {} rest
        let values ← reading.finish level
        return { arguments with values := values ++ arguments.values }
      | none =>
        if level.takesHelp word then .error (helpOn level rest)
        else do read level (← reading.take level word) rest

def Arguments.ofWords (words : List String) : Except Refusal Arguments := read .program {} words

end PaymentChannel.CommandLine
