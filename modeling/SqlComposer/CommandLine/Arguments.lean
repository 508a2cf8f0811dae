import SqlComposer.Text.Marks

/-!
The arguments of the command line, read from left to right. The first argument that is not in place
ends the reading, and so does a request for help. A path, and a value that stands apart from its
option, are checked only when the next argument has been found to be in place.
-/
namespace SqlComposer.CommandLine

inductive Request where
  /-- Writes the statement of a query file. Options go before the settings of the file. -/
  | render (path : String) (dialect? : Option String) (ownNames : Bool)
  | dialects
  deriving DecidableEq

/-- How reading the arguments ends when it does not give a request. -/
inductive Usage where
  | help
  | version
  | helpForMissing
  | missingPath
  | unknownArgument
  | unknownCommand
  | missingValue
  | repeatedOption
  | unexpectedValue
  deriving DecidableEq

def Usage.message : Usage → String
  | help | helpForMissing =>
    "Usage: cbean render [--dialect DIALECT] [--no-select-index] QUERY\n       cbean dialects"
  | version => "cbean 0.1.0"
  | missingPath => "error: the path of the query file is missing"
  | unknownArgument => "error: unexpected argument"
  | unknownCommand => "error: unrecognized subcommand"
  | missingValue => "error: an argument needs a value"
  | repeatedOption => "error: an option cannot be used more than once"
  | unexpectedValue => "error: an option does not take a value"

inductive Argument where
  /-- Two dashes: all later arguments are plain. -/
  | separator
  /-- A name after two dashes, perhaps with a value after an equals sign. -/
  | long (name : String) (value? : Option String)
  | short (letter : Char) (rest : List Char)
  | plain
  deriving DecidableEq

def Argument.ofText (text : String) : Argument :=
  match text.toList with
  | ['-', '-'] => .separator
  | '-' :: '-' :: name =>
    match Text.cutAt? ['='] name with
    | some (name, value) => .long (String.ofList name) (some (String.ofList value))
    | none => .long (String.ofList name) none
  | '-' :: letter :: rest => .short letter rest
  | _ => .plain

def attached? : List Char → Option String
  | [] => none
  | '=' :: value => some (String.ofList value)
  | value => some (String.ofList value)

/-- An argument that is accepted only when the next one is taken up, or at the end. -/
inductive Pending where
  | path (text : String)
  | dialect (value? : Option String)
  deriving DecidableEq

structure RenderOptions where
  path? : Option String := none
  dialect? : Option String := none
  ownNames : Bool := false
  pending? : Option Pending := none

namespace RenderOptions

def takeDialect (options : RenderOptions) (text : String) : Except Usage RenderOptions :=
  if options.dialect?.isSome then .error .repeatedOption
  else .ok { options with dialect? := some text }

/-- Accepts the pending argument. A path is not empty, and a dialect has a value. -/
def settle (options : RenderOptions) : Except Usage RenderOptions :=
  let settled := { options with pending? := none }
  match options.pending? with
  | none => .ok settled
  | some (.path text) =>
    if text.isEmpty then .error .missingValue else .ok { settled with path? := some text }
  | some (.dialect none) => .error .missingValue
  | some (.dialect (some text)) => settled.takeDialect text

def await (options : RenderOptions) (pending : Pending) : Except Usage RenderOptions :=
  options.settle.map fun settled => { settled with pending? := some pending }

def hasPath (options : RenderOptions) : Bool :=
  match options.pending? with
  | some (.path _) => true
  | _ => options.path?.isSome

/-- Takes the path, of which there is one. A second one is out of place whatever is pending. -/
def takePath (options : RenderOptions) (text : String) : Except Usage RenderOptions :=
  if options.hasPath then .error .unknownArgument else options.await (.path text)

/-- Takes a plain argument: the value of the option before it, if that still lacks one, or the
path. -/
def takePlain (options : RenderOptions) (text : String) : Except Usage RenderOptions :=
  if options.pending? = some (.dialect none) then
    .ok { options with pending? := some (.dialect (some text)) }
  else options.takePath text

def takeOwnNames (options : RenderOptions) : Except Usage RenderOptions := do
  let settled ← options.settle
  if settled.ownNames then .error .repeatedOption
  else .ok { settled with ownNames := true }

def takeDialectOption (options : RenderOptions) (value? : Option String) :
    Except Usage RenderOptions :=
  match value? with
  | some value => do
    let settled ← options.settle
    settled.takeDialect value
  | none => options.await (.dialect none)

/-- Ends the reading with a wish for help, unless what is pending is refused. -/
def help (options : RenderOptions) : Except Usage RenderOptions := do
  let _ ← options.settle
  throw .help

/-- Takes an argument that starts with a dash. One that is unknown, or has a value although it takes
none, is out of place whatever is pending. -/
def takeDashed (options : RenderOptions) : Argument → Except Usage RenderOptions
  | .long "help" none => options.help
  | .long "no-select-index" none => options.takeOwnNames
  | .long "dialect" value? => options.takeDialectOption value?
  | .long name value? =>
    if value?.isSome ∧ (name = "help" ∨ name = "no-select-index") then .error .unexpectedValue
    else .error .unknownArgument
  | .short letter letters =>
    if letter = 'h' then options.help
    else if letter = 'd' then options.takeDialectOption (attached? letters)
    else .error .unknownArgument
  | .separator | .plain => .error .unknownArgument

def takePaths (options : RenderOptions) : List String → Except Usage RenderOptions
  | [] => .ok options
  | text :: rest => do
    let options ← options.takePath text
    options.takePaths rest

def read (options : RenderOptions) : List String → Except Usage RenderOptions
  | [] => .ok options
  | text :: rest =>
    match Argument.ofText text with
    | .separator => options.takePaths rest
    | .plain => do
      let options ← options.takePlain text
      options.read rest
    | dashed => do
      let options ← options.takeDashed dashed
      options.read rest

end RenderOptions

namespace Request

def ofRenderArguments (arguments : List String) : Except Usage Request := do
  let pending ← RenderOptions.read {} arguments
  let options ← pending.settle
  match options.path? with
  | some path => return .render path options.dialect? options.ownNames
  | none => throw .missingPath

def ofDialectsArguments : List String → Except Usage Request
  | [] => .ok .dialects
  | text :: rest =>
    match Argument.ofText text with
    | .separator => if rest.isEmpty then .ok .dialects else .error .unknownArgument
    | .long "help" none => .error .help
    | .long "help" (some _) => .error .unexpectedValue
    | .short 'h' _ => .error .help
    | _ => .error .unknownArgument

def commands : List String := ["render", "dialects"]

def strayArgument (text : String) (rest : List String) : Usage :=
  match Argument.ofText text with
  | .separator =>
    match rest with
    | [] => .helpForMissing
    | next :: _ => if commands.contains next then .unknownArgument else .unknownCommand
  | .long name none =>
    if name = "help" then .help
    else if name = "version" then .version
    else .unknownArgument
  | .long name (some _) =>
    if name = "help" ∨ name = "version" then .unexpectedValue else .unknownArgument
  | .short letter _ =>
    if letter = 'h' then .help
    else if letter = 'V' then .version
    else .unknownArgument
  | .plain => .unknownCommand

def ofArguments : List String → Except Usage Request
  | [] => .error .helpForMissing
  | "render" :: rest => ofRenderArguments rest
  | "dialects" :: rest => ofDialectsArguments rest
  | text :: rest => .error (strayArgument text rest)

end Request
end SqlComposer.CommandLine
