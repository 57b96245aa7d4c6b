import TagSelect.Sql.Dialect

/-!
# The command line

Options are read from left to right, and the first problem, or the first request for the version
or for help, decides. An option takes its value from the same argument after `=`, or from the next
one, which must not look like an option; the short option may also have its value right behind
its letter. No option may occur twice, and there are no other arguments.
-/

namespace TagSelect.Shell

open Sql

/-- What the command line asks for. -/
structure Options where
  /-- The file with the settings. -/
  config : Option String
  /-- The file with the tags. -/
  tags : Option String
  dialect : Dialect
  /-- The filter to compile instead of reading commands. -/
  command : Option String
deriving DecidableEq, Repr

/-- The options that take a value. -/
inductive OptionName where
  | config
  | tags
  | dialect
  | command
deriving DecidableEq, Repr

/-- The option with a long name. -/
def OptionName.ofLong? (name : String) : Option OptionName :=
  if name = "config" then some .config
  else if name = "tags" then some .tags
  else if name = "dialect" then some .dialect
  else if name = "command" then some .command
  else none

/-- The options that have been read. -/
structure Draft where
  config : Option String
  tags : Option String
  dialect : Option Dialect
  command : Option String
deriving DecidableEq, Repr

/-- Sets an option that is not set. A path is not empty and a dialect is known. -/
def Draft.set? (d : Draft) (name : OptionName) (value : String) : Option Draft :=
  match name with
  | .config =>
    if d.config.isSome || value.isEmpty then none else some { d with config := some value }
  | .tags => if d.tags.isSome || value.isEmpty then none else some { d with tags := some value }
  | .dialect =>
    match d.dialect, Dialect.ofName value with
    | none, .ok dialect => some { d with dialect := some dialect }
    | _, _ => none
  | .command => if d.command.isSome then none else some { d with command := some value }

/-- The options, with the standard dialect if none was set. -/
def Draft.options (d : Draft) : Options :=
  ⟨d.config, d.tags, d.dialect.getD .standard, d.command⟩

/-- What to do. -/
inductive Invocation where
  | run (options : Options)
  | version
  | help
  | usageError
deriving DecidableEq, Repr

/-- What an argument is. -/
inductive Argument where
  /-- The mark after which no options follow. -/
  | escape
  | long (name : String) (value : Option String)
  | short (letter : Char) (rest : List Char)
  | other
deriving DecidableEq, Repr

/-- The parts of an argument. A single dash is no option. -/
def Argument.ofString (s : String) : Argument :=
  match s.toList with
  | ['-', '-'] => .escape
  | '-' :: '-' :: cs =>
    let value := match cs.dropWhile (· != '=') with
      | [] => none
      | _ :: value => some (String.ofList value)
    .long (String.ofList (cs.takeWhile (· != '='))) value
  | '-' :: c :: cs => .short c cs
  | _ => .other

/-- The value right behind the letter of a short option. -/
def attached? : List Char → Option String
  | [] => none
  | '=' :: cs => some (String.ofList cs)
  | cs => some (String.ofList cs)

/-- Reads arguments. An option without its value waits for it in `pending`. -/
def readArguments : Draft → Option OptionName → List String → Invocation
  | d, none, [] => .run d.options
  | _, some _, [] => .usageError
  | d, some name, arg :: args =>
    match Argument.ofString arg with
    | .other =>
      match d.set? name arg with
      | some d => readArguments d none args
      | none => .usageError
    | _ => .usageError
  | d, none, arg :: args =>
    match Argument.ofString arg with
    | .escape => if args.isEmpty then .run d.options else .usageError
    | .long name value =>
      match OptionName.ofLong? name, value with
      | some name, none => readArguments d (some name) args
      | some name, some value =>
        match d.set? name value with
        | some d => readArguments d none args
        | none => .usageError
      | none, none =>
        if name = "version" then .version else if name = "help" then .help else .usageError
      | none, some _ => .usageError
    | .short letter rest =>
      if letter = 'c' then
        match attached? rest with
        | none => readArguments d (some .command) args
        | some value =>
          match d.set? .command value with
          | some d => readArguments d none args
          | none => .usageError
      else if letter = 'V' then .version
      else if letter = 'h' then .help
      else .usageError
    | .other => .usageError

/-- Reads the command line. -/
def Invocation.ofArguments (args : List String) : Invocation :=
  readArguments ⟨none, none, none, none⟩ none args

end TagSelect.Shell
