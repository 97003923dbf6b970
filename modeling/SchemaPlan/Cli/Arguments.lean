import SchemaPlan.Text.Pieces

/-!
# Command line arguments

The arguments are options for the whole program, then a command, then what
belongs to the command: a declaration and flags. An option that has a value
takes it from behind `=`, from the rest of a cluster of short options, or
from the next argument unless that looks like an option itself. No option
may be given twice. After `--` everything is a declaration.

Reading gives nothing for arguments that are wrong in any way.
-/

namespace SchemaPlan.Cli

/-! ## What can be asked for -/

/-- What the program is asked to do. -/
inductive Command where
  /-- To generate migrations. -/
  | make (decl : String) (trial json strictDrops : Bool)
  /-- To show how each column is classified. -/
  | diff (decl : String) (strictDrops : Bool)
deriving DecidableEq, Repr

/-- Options for the whole program, as far as they are given. -/
structure GlobalOptions where
  /-- The address of the database. -/
  database : Option String
  /-- The directory of the migrations. -/
  directory : Option String
  /-- Whether details are shown. -/
  verbose : Bool
deriving DecidableEq, Repr

/-- No options. -/
def GlobalOptions.none : GlobalOptions where
  database := .none
  directory := .none
  verbose := false

/-- A program call. -/
structure Invocation where
  /-- The options for the whole program. -/
  options : GlobalOptions
  /-- The command. -/
  command : Command
deriving DecidableEq, Repr

/-! ## The form of an argument -/

/-- An argument by its form. -/
inductive Form where
  /-- Two dashes and nothing else. -/
  | separator
  /-- A long option, with the value behind `=` if there is one. -/
  | long (name : String) (value : Option String)
  /-- A cluster of short options. -/
  | short (letters : List Char)
  /-- Anything else. -/
  | plain (text : String)
deriving DecidableEq, Repr

/-- The form of an argument. A single dash is a plain text. -/
def Form.of (argument : String) : Form :=
  match argument.toList with
  | ['-', '-'] => .separator
  | '-' :: '-' :: cs =>
    match Text.cutChars? '=' cs with
    | some (name, value) => .long (String.ofList name) (some (String.ofList value))
    | none => .long (String.ofList cs) none
  | '-' :: c :: cs => .short (c :: cs)
  | _ => .plain argument

/-- Whether an argument can be the value of the option before it. -/
def isValue (argument : String) : Bool :=
  match Form.of argument with
  | .plain _ => true
  | _ => false

/-! ## Options for the whole program -/

/-- An option that has a value. -/
inductive Valued where
  /-- The address of the database. -/
  | database
  /-- The directory of the migrations. -/
  | directory
deriving DecidableEq, Repr

/-- The option with a long name that has a value. -/
def Valued.ofName? (name : String) : Option Valued :=
  if name == "database" then some .database
  else if name == "migrations-dir" then some .directory
  else none

/-- The option with a letter that has a value. -/
def Valued.ofLetter? (letter : Char) : Option Valued :=
  if letter == 'd' then some .database else if letter == 'm' then some .directory else none

/-- Gives an option its value, the first time; a directory needs a name. -/
def GlobalOptions.set? (options : GlobalOptions) (option : Valued) (value : String) :
    Option GlobalOptions :=
  match option with
  | .database =>
    if options.database.isSome then .none else some { options with database := some value }
  | .directory =>
    if options.directory.isSome || value.isEmpty then .none
    else some { options with directory := some value }

/-- Asks for details, the first time. -/
def GlobalOptions.setVerbose? (options : GlobalOptions) : Option GlobalOptions :=
  if options.verbose then .none else some { options with verbose := true }

/-- Reads a cluster of short options: the options with them added, and the
option that waits for its value in the next argument, if the last one
does. -/
def readCluster? (options : GlobalOptions) : List Char → Option (GlobalOptions × Option Valued)
  | [] => some (options, .none)
  | letter :: rest =>
    if letter == 'v' then
      (options.setVerbose?).bind fun added => readCluster? added rest
    else
      match Valued.ofLetter? letter, rest with
      | .none, _ => .none
      | some option, [] => some (options, some option)
      | some option, '=' :: value =>
        (options.set? option (String.ofList value)).map fun added => (added, .none)
      | some option, value =>
        (options.set? option (String.ofList value)).map fun added => (added, .none)

/-! ## Commands -/

/-- What has been read of the arguments of a command. -/
structure CommandArguments where
  /-- The declaration. -/
  decl : Option String
  /-- The flags, by their long names. -/
  flags : List String
deriving DecidableEq, Repr

/-- Takes the declaration, the first time. -/
def CommandArguments.setDecl? (given : CommandArguments) (text : String) :
    Option CommandArguments :=
  if given.decl.isSome then none else some { given with decl := some text }

/-- Takes a flag, the first time and if the command has it. -/
def CommandArguments.setFlag? (known : List String) (given : CommandArguments) (flag : String) :
    Option CommandArguments :=
  if known.contains flag && !given.flags.contains flag then
    some { given with flags := flag :: given.flags }
  else
    none

/-- Reads the arguments of a command that has the given flags. -/
def readCommand? (known : List String) (given : CommandArguments) :
    List String → Option CommandArguments
  | [] => some given
  | argument :: rest =>
    match Form.of argument with
    | .separator => rest.foldlM CommandArguments.setDecl? given
    | .long name none => (given.setFlag? known name).bind fun added => readCommand? known added rest
    | .long _ (some _) => none
    | .short _ => none
    | .plain text => (given.setDecl? text).bind fun added => readCommand? known added rest

/-- Reads a command from its name and its arguments. -/
def Command.read? (name : String) (arguments : List String) : Option Command :=
  if name == "make" then do
    let given ← readCommand? ["dry-run", "json", "strict-drops"] ⟨none, []⟩ arguments
    let decl ← given.decl
    return .make decl (given.flags.contains "dry-run") (given.flags.contains "json")
      (given.flags.contains "strict-drops")
  else if name == "diff" then do
    let given ← readCommand? ["strict-drops"] ⟨none, []⟩ arguments
    let decl ← given.decl
    return .diff decl (given.flags.contains "strict-drops")
  else
    none

/-! ## The whole call -/

/-- Reads arguments after some options were read; `waiting` is the option that
takes the next argument as its value. -/
def readFrom? (options : GlobalOptions) (waiting : Option Valued) :
    List String → Option Invocation
  | [] => none
  | argument :: rest =>
    match waiting with
    | some option =>
      if isValue argument then
        (options.set? option argument).bind fun added => readFrom? added none rest
      else
        none
    | none =>
      match Form.of argument with
      | .separator => none
      | .long name value =>
        if name == "verbose" then
          if value.isSome then none
          else (options.setVerbose?).bind fun added => readFrom? added none rest
        else
          match Valued.ofName? name, value with
          | none, _ => none
          | some option, none => readFrom? options (some option) rest
          | some option, some text =>
            (options.set? option text).bind fun added => readFrom? added none rest
      | .short letters =>
        (readCluster? options letters).bind fun (added, next) => readFrom? added next rest
      | .plain name => (Command.read? name rest).map fun command => ⟨options, command⟩

/-- Reads the arguments of a program call. -/
def Invocation.read? (arguments : List String) : Option Invocation :=
  readFrom? .none none arguments

end SchemaPlan.Cli
