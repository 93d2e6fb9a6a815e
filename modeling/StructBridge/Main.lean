import StructBridge.Command.Run
import StructBridge.Command.Usage

/-!
The command line. A picture is taken of the entries that a call can reach, the call runs on the
picture, and what it changed there is carried over to the file system.
-/
namespace StructBridge.Command
open Files

/-- A text for the terminal, with a mark for each surrogate. -/
def onTerminal (t : Text) : String := String.ofList (t.map fun c => c.char?.getD '\ufffd')

/-- The locations that the words of a call name, and all on the way to them. -/
def reachable (d : Disk) (words : List Text) : List Location :=
  match readArguments words with
  | .ok a =>
    let named := (a.words ++ (a.value? .config).toList).map fun text => d.resolve (Path.ofText text)
    (named.flatMap Path.beginnings).eraseDups
  | .error _ => []

def pathTo (l : Location) : String := onTerminal (absolutePath l).text

/-- The entry at a location, if there is one. -/
def entryAt (l : Location) : IO (Option Entry) := do
  let path := (← IO.currentDir) / pathTo l
  if ← path.isDir then return some .directory
  else if ← path.pathExists then return some (.file (← IO.FS.readFile path))
  else return none

def picture (words : List Text) : IO Disk := do
  let directory := (Path.ofText (← IO.currentDir).toString).parts
  let mut d : Disk := ⟨[], directory⟩
  for l in reachable d words do
    if let some e ← entryAt l then d := d.put l e
  return d

/-- Makes a directory, or fills a draft and moves it into place. -/
def carryOver (d : Disk) (l : Location) : Entry → IO Unit
  | .directory => IO.FS.createDir (pathTo l)
  | .file content => do
    let draft := pathTo (l.dropLast ++ [d.freeDraftName l.dropLast (absolutePath l).name])
    IO.FS.writeFile draft content
    IO.FS.rename draft (pathTo l)

def Crash.message : Crash → Text
  | fault f => f.message
  | unreadable .malformed => "Malformed JSON"
  | unreadable .oversized => "Integer with too many digits"

def Ending.report : Ending → IO Unit
  | done => return
  | help => IO.println (onTerminal helpText)
  | usage fault => do
    IO.eprintln (onTerminal usageText)
    IO.eprintln (onTerminal ("Error: " ++ fault.message))
  | reported fault => IO.eprintln (onTerminal ("Error: " ++ fault.message))
  | crashed crash => IO.eprintln (onTerminal crash.message)

/-- Runs a call on the file system and gives its exit code. -/
def call (words : List Text) : IO UInt32 := do
  let before ← picture words
  let result := run before words
  for (l, e) in result.disk.entries do
    if before.entry? l ≠ some e then carryOver before l e
  for event in result.events do
    IO.eprintln (onTerminal event.text)
  result.ending.report
  return result.ending.exitCode.toUInt32

end StructBridge.Command

def main (words : List String) : IO UInt32 :=
  StructBridge.Command.call (words.map StructBridge.Text.ofString)
