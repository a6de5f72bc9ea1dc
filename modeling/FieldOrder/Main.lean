import FieldOrder.CommandLine.Snapshot
import FieldOrder.CommandLine.Steps

namespace FieldOrder

partial def readInput (input : IO.FS.Stream) (done : String) : IO String := do
  let line ← input.getLine
  if line.isEmpty then return done else readInput input (done ++ line)

def RunError.text : RunError → String
  | configFile (.notText e) => e.message
  | configFile (.value e) => e.message
  | configFile (.os e name) => e.message name
  | configFile (.load .unshowable) => unshowableMessage
  | rules (.load .unshowable) => unshowableMessage
  | collect e => e.message
  | lint (.document .notParsed) => DocumentError.notParsed.message
  | _ => "the run ended early"

def runSnapshot (words : List String) (text : String) : IO UInt32 := do
  match Yaml.load text.toList with
  | .error _ =>
    IO.eprintln "The snapshot is malformed"
    return 2
  | .ok v =>
    let s := Snapshot.ofValue v
    let env := Environment.plain fun _ => s.parse
    let (result, p) := (Steps.run env words).runFrom (Steps.start s.workspace)
    for (location, text) in p.written do
      IO.FS.writeFile (s.workspace.nameOf location) text
    IO.print p.stdout
    IO.eprint p.stderr
    match result with
    | .error e =>
      IO.eprintln e.text
      return 3
    | .ok exit => return exit.toUInt32

end FieldOrder

/-- The words of the command are arguments; the files and their syntax trees come as one snapshot on
standard input. Texts that a fix changes are written back to the files that the snapshot was taken
of. -/
def main (args : List String) : IO UInt32 := do
  FieldOrder.runSnapshot args (← FieldOrder.readInput (← IO.getStdin) "")
