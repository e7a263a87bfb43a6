import ClusterPorts.CommandLine.Flag

/-!
# Reading a command line

A command line is a command with flags before and after it. A flag of the command
line wins over its variable in the environment, and one after the command over
one before it. The arguments after the command are read first; whatever is wrong
with them is found before what is wrong with the values before the command.
-/

namespace ClusterPorts.CommandLine

/-- A command. -/
inductive Verb where
  | prepare
  | cleanup
deriving DecidableEq, Repr, Inhabited

namespace Verb

/-- The name of a command. -/
def name : Verb → String
  | prepare => "prepare"
  | cleanup => "cleanup"

/-- The command of a name. -/
def ofName? : String → Option Verb
  | "prepare" => some prepare
  | "cleanup" => some cleanup
  | _ => none

end Verb

/-- The place of an argument: before the command, or after it. -/
inductive Place where
  | before
  | after (verb : Verb)
deriving DecidableEq, Repr

namespace Place

/-- The flags of a place, in the order in which their variables are looked at. -/
def flags : Place → List Flag
  | before => Flag.common
  | after .prepare => .port :: Flag.common
  | after .cleanup => Flag.common

/-- The flag of a name at a place. -/
def flag? (place : Place) (name : String) : Option Flag :=
  place.flags.find? (·.name = name)

end Place

/-- The environment: the values of variables. -/
abbrev Environment := List (String × String)

/-- What is given for the flags. -/
abbrev Given := List (Flag × List Value)

namespace Given

/-- What is given for a flag. -/
def find? (given : Given) (flag : Flag) : Option (List Value) :=
  List.lookup flag given

/-- Add values to those that are given for a flag. -/
def add (given : Given) (flag : Flag) (values : List Value) : Given :=
  match given with
  | [] => [(flag, values)]
  | (f, vs) :: rest => if f = flag then (f, vs ++ values) :: rest else (f, vs) :: add rest flag values

end Given

/-- What has been read of the arguments at a place. A flag is settled only when
the next one comes: its value may still be missing until then. -/
structure Reading where
  given : Given := []
  open? : Option (Flag × Option String) := none

namespace Reading

/-- Note that a flag is given, if it may be. -/
def settle (reading : Reading) (flag : Flag) (values : Except UsageFault (List Value)) :
    Except UsageFault Reading :=
  if (reading.given.find? flag).isSome && !flag.isRepeatable then .error .repeatedFlag
  else do return { reading with given := reading.given.add flag (← values) }

/-- Settle the flag that is open. -/
def close (reading : Reading) : Except UsageFault Reading :=
  match reading.open? with
  | none => .ok reading
  | some (_, none) => .error .noValue
  | some (flag, some s) => { reading with open? := none }.settle flag (flag.readAll s)

/-- The flag that waits for its value. -/
def waiting? (reading : Reading) : Option Flag :=
  match reading.open? with
  | some (flag, none) => some flag
  | _ => none

end Reading

/-- What an argument that is neither a flag nor a value is taken for. -/
def stray (place : Place) (afterDashes : Bool) (arg : String) : UsageFault :=
  match place with
  | .before =>
    if afterDashes && ((Verb.ofName? arg).isSome || arg = "help") then .unknownArgument
    else .unknownCommand
  | .after _ => .unknownArgument

/-- What asking for help about commands comes to. -/
def help : List String → UsageFault
  | [] => .helpWanted
  | [command] =>
    if (Verb.ofName? command).isSome || command = "help" then .helpWanted else .unknownCommand
  | _ => .unknownCommand

/-- Read a flag by its name, with the value that is attached to it. -/
def readFlag (place : Place) (reading : Reading) (name : String) (attached : Option String) :
    Except UsageFault Reading :=
  if name = "help" || (name = "version" && place = .before) then
    if attached.isSome then .error .surplusValue
    else do
      let _ ← reading.close
      .error (if name = "help" then .helpWanted else .versionWanted)
  else
    match place.flag? name with
    | none => .error .unknownArgument
    | some flag =>
      if !flag.takesValue then
        if attached.isSome then .error .surplusValue
        else do (← reading.close).settle flag (.ok [.truth true])
      else
        match attached with
        | some s => do (← reading.close).settle flag (flag.readAll s)
        | none => do return { ← reading.close with open? := some (flag, none) }

/-- Read a flag by its letter. -/
def readLetter (place : Place) (reading : Reading) (letter : Char) : Except UsageFault Reading :=
  if letter = 'h' then do
    let _ ← reading.close
    .error .helpWanted
  else if letter = 'V' && place = .before then do
    let _ ← reading.close
    .error .versionWanted
  else .error .unknownArgument

/-- The name of a flag, and the value that is attached to it. -/
def splitAttached (cs : List Char) : String × Option String :=
  (String.ofList (cs.takeWhile (· ≠ '=')),
    match cs.dropWhile (· ≠ '=') with
    | [] => none
    | _ :: value => some (String.ofList value))

/-- Read the arguments at a place, up to the command if it is before one. After
two dashes no argument is a flag or a command. -/
def readArguments (place : Place) : (afterDashes : Bool) → Reading → List String →
    Except UsageFault (Reading × Option (Verb × List String))
  | _, reading, [] => .ok (reading, none)
  | true, _, arg :: _ => .error (stray place true arg)
  | false, reading, arg :: rest =>
    let command := if place = .before && reading.waiting?.isNone then Verb.ofName? arg else none
    match command with
    | some verb => .ok (reading, some (verb, rest))
    | none =>
      if place = .before && reading.waiting?.isNone && arg = "help" then .error (help rest)
      else
        match arg.toList with
        | ['-', '-'] => readArguments place true reading rest
        | '-' :: '-' :: cs => do
          let (name, attached) := splitAttached cs
          readArguments place false (← readFlag place reading name attached) rest
        | '-' :: letter :: _ => do
          readArguments place false (← readLetter place reading letter) rest
        | _ =>
          match reading.waiting? with
          | some flag =>
            readArguments place false { reading with open? := some (flag, some arg) } rest
          | none => .error (stray place false arg)

/-- Add what the environment gives for the flags that are not given yet. -/
def addVariables (environment : Environment) (given : Given) :
    List Flag → Except UsageFault Given
  | [] => .ok []
  | flag :: rest =>
    match given.find? flag, List.lookup flag.variableName environment with
    | none, some s => do
      let values ← flag.readAll s
      return (flag, values) :: (← addVariables environment given rest)
    | _, _ => addVariables environment given rest

/-- What is given at a place: on the command line, and in the environment. -/
structure Level where
  given : Given := []
  inherited : Given := []

/-- Finish reading the arguments at a place. -/
def finish (place : Place) (environment : Environment) (reading : Reading) :
    Except UsageFault Level := do
  let reading ← reading.close
  return ⟨reading.given, ← addVariables environment reading.given place.flags⟩

/-- A command line as it was given. -/
structure Invocation where
  verb : Verb
  before : Level
  after : Level

namespace Invocation

/-- What is given for a flag: on the command line after the command or before
it, or else in the environment. -/
def find? (invocation : Invocation) (flag : Flag) : Option (List Value) :=
  (invocation.after.given.find? flag).or <|
    (invocation.before.given.find? flag).or <|
      (invocation.after.inherited.find? flag).or (invocation.before.inherited.find? flag)

/-- The text that is given for a flag. -/
def text? (invocation : Invocation) (flag : Flag) : Option String :=
  match invocation.find? flag with
  | some (.text s :: _) => some s
  | _ => none

/-- The number that is given for a flag. -/
def number? (invocation : Invocation) (flag : Flag) : Option UInt64 :=
  match invocation.find? flag with
  | some (.number n :: _) => some n
  | _ => none

/-- Whether a flag without a value is given. -/
def isSet (invocation : Invocation) (flag : Flag) : Bool :=
  match invocation.find? flag with
  | some (.truth b :: _) => b
  | _ => false

/-- The ports that are given. -/
def ports (invocation : Invocation) : List Port :=
  ((invocation.find? .port).getD []).filterMap fun
    | .port port => some port
    | _ => none

/-- The name of the level of the log. -/
def levelName (invocation : Invocation) : String := (invocation.text? .logLevel).getD "info"

/-- The level of the log. -/
def level (invocation : Invocation) : ClusterPorts.Level := .ofName invocation.levelName

/-- The flags for Azure that are given. -/
def azureFlags (invocation : Invocation) : List String :=
  (Flag.azure.filter fun flag => (invocation.text? flag).isSome).map fun flag => "--" ++ flag.name

end Invocation

/-- Read a command line. -/
def parse (environment : Environment) (args : List String) : Except UsageFault Invocation := do
  match ← readArguments .before false {} args with
  | (reading, some (verb, rest)) =>
    let (inner, _) ← readArguments (.after verb) false {} rest
    let after ← finish (.after verb) environment inner
    let before ← finish .before environment reading
    return ⟨verb, before, after⟩
  | (reading, none) =>
    let before ← finish .before environment reading
    if before.given.isEmpty && before.inherited.isEmpty then .error .nothingGiven
    else .error .noCommand

end ClusterPorts.CommandLine
