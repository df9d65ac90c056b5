import Marktree.CommandLine.Run

/-!
# The program

Reads the files that the arguments name and the standard input, runs the request, and writes its
result.
-/
namespace Marktree.Program

/-- An error code of the system, which may come with its sign changed. -/
def isCode (code n : UInt32) : Bool :=
  code = n || code + n = 0

def fileError (e : IO.Error) : FileError :=
  let coded (code : UInt32) : FileError :=
    if isCode code 20 then .notDirectory
    else if isCode code 21 then .directory
    else if isCode code 36 then .nameTooLong
    else .other e.toString
  match e with
  | .noFileOrDirectory .. => .missing
  | .inappropriateType _ code _ => coded code
  | .invalidArgument _ code _ => coded code
  | e => .other e.toString

/-- What a path leads to. -/
def find (path : String) : IO (Except FileError Found) := do
  try
    let bytes ← IO.FS.readBinFile path
    return .ok (.file bytes.toList)
  catch e =>
    match fileError e with
    | .directory => return .ok .directory
    | e => return .error e

/-- The nearest configuration file, from `path` on up to so many directories above. -/
def nearestConfig (path : String) : Nat → IO (Option String)
  | 0 => return none
  | n + 1 => do
    match ← find path with
    | .ok (.file _) => return some path
    | _ => nearestConfig ("../" ++ path) n

/-- All that comes from a stream. -/
partial def readAll (s : IO.FS.Stream) (before : ByteArray) : IO ByteArray := do
  let bytes ← s.read 65536
  if bytes.isEmpty then return before else readAll s (before ++ bytes)

/-- What a request can read. -/
def files (r : CommandLine.Request) : IO Files := do
  let depth := (toString (← IO.currentDir)).length
  let nearest ← nearestConfig CommandLine.configName depth
  let found ← (r.paths ++ nearest.toList).mapM fun p => return (p, ← find p)
  let input ← if r.readsInput then readAll (← IO.getStdin) .empty else pure .empty
  return {
    find := fun p => (found.lookup p).getD (.error .missing)
    nearestConfig := nearest
    input := input.toList }

def run (args : List String) : IO CommandLine.Outcome := do
  match CommandLine.parse? args with
  | some r => return CommandLine.answer (← files r) r
  | none => return CommandLine.misuse

end Marktree.Program

def main (args : List String) : IO UInt32 := do
  let o ← Marktree.Program.run args
  (← IO.getStdout).putStr o.output
  (← IO.getStderr).putStr o.errors
  return UInt32.ofNat o.code
