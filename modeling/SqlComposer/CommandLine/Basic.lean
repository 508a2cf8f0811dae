import SqlComposer.CommandLine.Arguments
import SqlComposer.CommandLine.DialectTable
import SqlComposer.QueryFile.Building

/-!
What the command line answers. The settings of a query file give way to the environment, and that to
the options.
-/
namespace SqlComposer.CommandLine

inductive Failure where
  | unreadableFile (path : String)
  | invalidFile (path : String) (cause : QueryFile.Problem)
  | settings (cause : SettingsError)
  | notRendered (path : String) (cause : QueryFile.Problem)

def Failure.activity? : Failure → Option String
  | unreadableFile path => some ("Failed to read query file " ++ path)
  | invalidFile path _ => some ("Invalid query file " ++ path)
  | settings _ => none
  | notRendered path _ => some ("Failed to render " ++ path)

def Failure.cause : Failure → String
  | unreadableFile _ => "The file cannot be read"
  | invalidFile _ cause => cause.message
  | settings cause => cause.message
  | notRendered _ cause => cause.message

def Failure.message (failure : Failure) : String :=
  match failure.activity? with
  | some activity => activity ++ "\n\nCaused by:\n    " ++ failure.cause
  | none => failure.cause

def Request.path? : Request → Option String
  | render path _ _ => some path
  | dialects => none

def effectiveSettings (settings : Settings) (environment : Environment)
    (dialect? : Option String) (ownNames : Bool) : Except SettingsError Settings := do
  let settings ← settings.override environment
  let dialect ← match dialect? with
    | some name => Dialect.ofName name
    | none => .ok settings.dialect
  return { settings with dialect, selectIndex := settings.selectIndex && !ownNames }

def renderFile (path : String) (content? : Option String) (environment : Environment)
    (dialect? : Option String) (ownNames : Bool) : Except Failure String :=
  match content? with
  | none => .error (.unreadableFile path)
  | some content => do
    let file ← (QueryFile.parse content).mapError (Failure.invalidFile path)
    let settings ←
      (effectiveSettings file.settings environment dialect? ownNames).mapError Failure.settings
    (file.render settings).mapError (Failure.notRendered path)

/-- The answer to a request, given the content of its file. A line end closes it. -/
def Request.answer (request : Request) (content? : Option String) (environment : Environment)
    (inColor : Bool) : Except Failure String :=
  match request with
  | render path dialect? ownNames =>
    (renderFile path content? environment dialect? ownNames).map (· ++ "\n")
  | dialects => .ok (dialectTable inColor ++ "\n")

end SqlComposer.CommandLine
