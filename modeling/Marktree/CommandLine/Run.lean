import Marktree.CommandLine.Arguments
import Marktree.Config.File
import Marktree.Node.Json
import Marktree.Node.Outline
import Marktree.Render

/-!
# Running commands

The result of a request in some surroundings: what is written, and the exit code.
-/
namespace Marktree.CommandLine

/-- What a run leaves. -/
structure Outcome where
  code : Nat := 0
  output : String := ""
  errors : String := ""
  deriving Repr, DecidableEq, Inhabited

inductive CommandError
  | config (error : ConfigError)
  | file (error : FileError)
  | compile (error : CompileError)
  deriving Repr, DecidableEq, Inhabited

def CommandError.message : CommandError → String
  | config e => e.message
  | file e => e.message
  | compile e => e.message

/-- The name of configuration files. -/
def configName : String :=
  "marknode.toml"

def version : String :=
  "marknode 0.1.0"

def usage : String :=
  "Usage: marknode render [OPTIONS] [FILE]\n       marknode options [OPTIONS]"

def configure (fs : Files) (s : Settings) : Except CommandError Config :=
  (Config.configure fs s.config s.format s.assignments).mapError .config

/-- A text as the command writes it. -/
def write (c : Config) (emit : Emit) (text : String) : Except CompileError String :=
  match emit, c.format with
  | .html, .markdown => Render.html c.options text
  | .html, .plain => .ok (Render.plainHtml text)
  | .json, f => (Render.document f c.options text).map fun t => (Json.optional Node.toJson t).pretty
  | .tree, f => (Render.document f c.options text).map fun t => (t.map Node.outline).getD ""

/-- The files that a request names. -/
def Request.paths : Request → List String
  | .render file s _ _ => file.toList ++ s.config.toList
  | .options s => s.config.toList
  | .version | .help => []

/-- The text to render comes from the standard input. -/
def Request.readsInput : Request → Bool
  | .render none _ _ _ => true
  | _ => false

/-- The text to render: a file or the standard input. -/
def source (fs : Files) : Option String → Except FileError String
  | some path => fs.text path
  | none => fs.inputText

/-- Renders a text. The white space that the result ends in is left out. -/
def render (fs : Files) (file : Option String) (s : Settings) (emit : Emit) :
    Except CommandError Outcome := do
  let c ← configure fs s
  let text ← (source fs file).mapError .file
  if text.isEmpty then return { errors := "Input is empty, nothing to render\n" }
  else
    let written ← (write c emit text).mapError .compile
    return { output := Text.trimEnd written ++ "\n" }

/-- The effective options in the order of their names. -/
def optionsJson (o : Options) : Json :=
  let keys := Switch.all.mergeSort fun a b => a.name ≤ b.name
  .obj (keys.map fun k => (k.name, .bool (o.get k)))

/-- Writes the format and the options that are in effect. -/
def options (fs : Files) (s : Settings) : Except CommandError Outcome := do
  let c ← configure fs s
  let json : Json := .obj [("format", .str c.format.name), ("options", optionsJson c.options)]
  return { output := json.pretty ++ "\n" }

/-- An error ends the run. -/
def report : Except CommandError Outcome → Outcome
  | .ok o => o
  | .error e => { code := 1, errors := "Error: " ++ e.message ++ "\n" }

def answer (fs : Files) : Request → Outcome
  | .render file s emit _ => report (render fs file s emit)
  | .options s => report (options fs s)
  | .version => { output := version ++ "\n" }
  | .help => { output := usage ++ "\n" }

/-- The arguments are no request. -/
def misuse : Outcome where
  code := 2
  errors := usage ++ "\n"

/-- Runs the program with its arguments. -/
def run (fs : Files) (args : List String) : Outcome :=
  match parse? args with
  | some r => answer fs r
  | none => misuse

end Marktree.CommandLine
