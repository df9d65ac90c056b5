import Marktree.Config.Options

/-!
# Arguments

The arguments of the program as a request. An option stands in a long or a short form, its value in
the same argument or in the next one; short options without values can be joined.
-/
namespace Marktree.CommandLine

/-- How a result is written. -/
inductive Emit
  | tree | json | html
  deriving Repr, DecidableEq, Inhabited

def Emit.named? : String → Option Emit
  | "tree" => some tree
  | "json" => some json
  | "html" => some html
  | _ => none

/-- What both commands can be told. -/
structure Settings where
  config : Option String := none
  format : Option Format := none
  /-- The options that are set, in order. -/
  assignments : List String := []
  deriving Repr, DecidableEq, Inhabited

inductive Request
  | render (file : Option String) (settings : Settings) (emit : Emit) (verbose : Bool)
  | options (settings : Settings)
  | version
  | help
  deriving Repr, DecidableEq, Inhabited

/-- Why no request can be read from arguments to their end. -/
inductive Stop
  | misuse
  | help
  deriving Repr, DecidableEq, Inhabited

inductive Command
  | render | options
  deriving Repr, DecidableEq, Inhabited

/-- The options of the commands. -/
inductive Flag
  | config | format | assignment | emit | verbose | help
  deriving Repr, DecidableEq, Inhabited

namespace Flag

def long? : String → Option Flag
  | "config" => some config
  | "format" => some format
  | "set" => some assignment
  | "emit" => some emit
  | "verbose" => some verbose
  | "help" => some help
  | _ => none

def short? : Char → Option Flag
  | 'c' => some config
  | 'f' => some format
  | 's' => some assignment
  | 'e' => some emit
  | 'v' => some verbose
  | 'h' => some help
  | _ => none

def takesValue : Flag → Bool
  | verbose | help => false
  | _ => true

/-- Only rendering can be told how to write its result and to be verbose. -/
def belongsTo : Command → Flag → Bool
  | .render, _ => true
  | .options, f => f != emit && f != verbose

end Flag

/-- Arguments that are read in part. -/
structure Draft where
  command : Command
  file : Option String := none
  settings : Settings := {}
  emit : Option Emit := none
  verbose : Bool := false
  /-- The option whose value the next argument is. -/
  pending : Option Flag := none
  /-- All further arguments are files. -/
  filesOnly : Bool := false
  deriving Repr, DecidableEq, Inhabited

namespace Draft

/-- Sets what may be set once. -/
def once (old : Option α) (new : α) : Except Stop (Option α) :=
  if old.isSome then .error .misuse else .ok (some new)

/-- Paths are not empty. -/
def path (s : String) : Except Stop String :=
  if s.isEmpty then .error .misuse else .ok s

def addFile (d : Draft) (s : String) : Except Stop Draft := do
  if d.command = .options then .error .misuse
  else return { d with file := ← once d.file (← path s) }

/-- Sets an option to its value. -/
def setValue (d : Draft) (f : Flag) (s : String) : Except Stop Draft := do
  let d := { d with pending := none }
  let st := d.settings
  match f with
  | .config => return { d with settings.config := ← once st.config (← path s) }
  | .format => return { d with settings.format := ← once st.format (.named s) }
  | .assignment => return { d with settings.assignments := st.assignments ++ [s] }
  | .emit =>
    match Emit.named? s with
    | some e => return { d with emit := ← once d.emit e }
    | none => .error .misuse
  | .verbose | .help => .error .misuse

/-- Sets an option that takes no value. -/
def setFlag (d : Draft) (f : Flag) : Except Stop Draft :=
  match f with
  | .help => .error .help
  | .verbose => if d.verbose then .error .misuse else .ok { d with verbose := true }
  | _ => .ok { d with pending := some f }

/-- An option of the command. -/
def known (d : Draft) (f : Option Flag) : Except Stop Flag :=
  match f.filter (·.belongsTo d.command) with
  | some f => .ok f
  | none => .error .misuse

/-- Reads short options; a value can follow the last of them. -/
def cluster (d : Draft) : List Char → Except Stop Draft
  | [] => .ok d
  | c :: cs => do
    let f ← d.known (Flag.short? c)
    if f.takesValue then
      match cs with
      | [] => d.setFlag f
      | '=' :: value => d.setValue f (String.ofList value)
      | value => d.setValue f (String.ofList value)
    else
      let d ← d.setFlag f
      d.cluster cs

/-- Reads a long option, perhaps with its value. -/
def long (d : Draft) (cs : List Char) : Except Stop Draft := do
  let f ← d.known (Flag.long? (String.ofList (cs.takeWhile (· != '='))))
  match cs.dropWhile (· != '=') with
  | [] => d.setFlag f
  | _ :: value => if f.takesValue then d.setValue f (String.ofList value) else .error .misuse

/-- Reads one argument. A value that begins with a dash must stand with its option; a single dash is
no option. -/
def read (d : Draft) (arg : String) : Except Stop Draft :=
  if d.filesOnly then if d.pending.isSome then .error .misuse else d.addFile arg
  else
    match arg.toList, d.pending with
    | ['-', '-'], none => .ok { d with filesOnly := true }
    | '-' :: '-' :: cs, none => d.long cs
    | '-' :: c :: cs, none => d.cluster (c :: cs)
    | '-' :: _ :: _, some _ => .error .misuse
    | _, some f => d.setValue f arg
    | _, none => d.addFile arg

/-- The request, if no value is missing. -/
def finish (d : Draft) : Except Stop Request :=
  if d.pending.isSome then .error .misuse
  else
    match d.command with
    | .render => .ok (.render d.file d.settings (d.emit.getD .tree) d.verbose)
    | .options => .ok (.options d.settings)

end Draft

/-- The request of a command. -/
def requestOf (c : Command) (args : List String) : Option Request :=
  match args.foldlM Draft.read { command := c } >>= Draft.finish with
  | .ok r => some r
  | .error .help => some .help
  | .error .misuse => none

/-- The names for which there is help. -/
def isTopic (s : String) : Bool :=
  s == "render" || s == "options" || s == "help"

/-- The request of the arguments, if they are one. -/
def parse? : List String → Option Request
  | "render" :: args => requestOf .render args
  | "options" :: args => requestOf .options args
  | ["help"] => some .help
  | ["help", topic] => if isTopic topic then some .help else none
  | arg :: _ =>
    match arg.toList with
    | ['-', '-', 'h', 'e', 'l', 'p'] => some .help
    | '-' :: 'h' :: _ => some .help
    | '-' :: 'V' :: _ => some .version
    | cs => if cs = "--version".toList then some .version else none
  | [] => none

end Marktree.CommandLine
