import StructBridge.Fault
import StructBridge.Files.Path
import StructBridge.Lookup

/-!
A tree of files and directories without links, as the entries at absolute locations, and what the
operating system does with it. The root exists always. A path is followed component by component;
the first one that cannot be passed decides the fault.
-/
namespace StructBridge.Files

/-- The components that lead from the root to an entry. -/
abbrev Location := List Text

inductive Entry where
  | file (content : String)
  | directory
  deriving DecidableEq, Repr

structure Disk where
  entries : List (Location × Entry)
  workingDirectory : Location

def absolutePath (l : Location) : Path := ⟨.single, l⟩

def nameLimit : Nat := 255
def pathLimit : Nat := 4095

def longerThan (limit : Nat) (name : Text) : Bool := name.nameSize?.any (limit < ·)

namespace Disk

def entry? (d : Disk) (l : Location) : Option Entry :=
  if l = [] then some .directory else d.entries.lookup l

def put (d : Disk) (l : Location) (e : Entry) : Disk :=
  { d with entries := setKey l e d.entries }

def remove (d : Disk) (l : Location) : Disk :=
  { d with entries := d.entries.filter fun entry => entry.1 ≠ l }

theorem entry_put {d : Disk} {l : Location} {e : Entry} (below : l ≠ []) (k : Location) :
    entry? (d.put l e) k = if k = l then some e else d.entry? k := by
  unfold entry? put
  simp only [lookup_setKey]
  by_cases root : k = []
  · subst root
    simp [Ne.symm below]
  · simp [root]

theorem entry_remove {d : Disk} {l : Location} (below : l ≠ []) (k : Location) :
    entry? (d.remove l) k = if k = l then none else d.entry? k := by
  unfold entry? remove
  simp only [lookup_without]
  by_cases root : k = []
  · subst root
    simp [Ne.symm below]
  · simp [root]

def start (d : Disk) (p : Path) : Location :=
  if p.root = .none then d.workingDirectory else []

def advance (l : Location) (part : Text) : Location :=
  if part = ".." then l.dropLast else l ++ [part]

/-- The location that a path names when it is read by its words alone. -/
def resolve (d : Disk) (p : Path) : Location := p.parts.foldl advance (d.start p)

/-- The path from a root to the location that a path names by its words. Two leading slashes
stay. -/
def absolute (d : Disk) (p : Path) : Path :=
  ⟨if p.root = .double then .double else .single, d.resolve p⟩

/-- The directory that components lead to; two dots lead to the directory around. -/
def follow (d : Disk) (path : Text) : Location → List Text → Except SystemFault Location
  | l, [] => .ok l
  | l, part :: rest =>
    if part = ".." then d.follow path l.dropLast rest
    else if longerThan nameLimit part then .error (.nameTooLong path)
    else
      match d.entry? (l ++ [part]) with
      | none => .error (.missing path)
      | some (.file _) => .error (.notDirectory path)
      | some .directory => d.follow path (l ++ [part]) rest

/-- Where a path leads: a name in a directory, or a directory that the path calls by no name. -/
inductive Place where
  | named (directory : Location) (name : Text)
  | unnamed (directory : Location)

def locate (d : Disk) (p : Path) : Except SystemFault Place :=
  if p.text.nameSize?.isNone then .error .unencodable
  else if p.text.contains (.char '\x00') then .error .nullInPath
  else if longerThan pathLimit p.text then .error (.nameTooLong p.text)
  else
    match p.parts.getLast? with
    | none => .ok (.unnamed (d.start p))
    | some name =>
      if name = ".." then (d.follow p.text (d.start p) p.parts).map .unnamed
      else do
        let directory ← d.follow p.text (d.start p) p.parts.dropLast
        if longerThan nameLimit name then .error (.nameTooLong p.text)
        else return .named directory name

def look (d : Disk) (p : Path) : Except SystemFault Entry := do
  match ← d.locate p with
  | .unnamed _ => return .directory
  | .named directory name =>
    match d.entry? (directory ++ [name]) with
    | some e => return e
    | none => .error (.missing p.text)

/-- A path that leads nowhere names nothing; one that is too long cannot be looked up. -/
def found? (d : Disk) (p : Path) : Except SystemFault (Option Entry) :=
  match d.look p with
  | .ok e => .ok (some e)
  | .error (.nameTooLong path) => .error (.nameTooLong path)
  | .error _ => .ok none

def isDirectory (d : Disk) (p : Path) : Bool := d.look p matches .ok .directory

def makeDirectory (d : Disk) (p : Path) : Except SystemFault Disk := do
  match ← d.locate p with
  | .unnamed _ => .error (.occupied p.text)
  | .named directory name =>
    match d.entry? (directory ++ [name]) with
    | some _ => .error (.occupied p.text)
    | none => return d.put (directory ++ [name]) .directory

def keepDirectory (d : Disk) (p : Path) : Except SystemFault Disk :=
  match d.makeDirectory p with
  | .ok made => .ok made
  | .error fault =>
    if fault matches .missing _ | .nullInPath | .unencodable then .error fault
    else if d.isDirectory p then .ok d else .error fault

/-- Makes the first directory of a chain and, before it, those that it lacks. What was made stays
when a later one cannot be. -/
def ensureChain (d : Disk) : List Path → Disk × Except SystemFault Unit
  | [] => (d, .ok ())
  | p :: around =>
    match d.keepDirectory p, around with
    | .ok made, _ => (made, .ok ())
    | .error (.missing path), [] => (d, .error (.missing path))
    | .error (.missing _), around =>
      match d.ensureChain around with
      | (made, .ok ()) =>
        match made.keepDirectory p with
        | .ok complete => (complete, .ok ())
        | .error fault => (made, .error fault)
      | (made, .error fault) => (made, .error fault)
    | .error fault, _ => (d, .error fault)

def ensureDirectory (d : Disk) (p : Path) : Disk × Except SystemFault Unit :=
  d.ensureChain p.chain

def writable (d : Disk) (p : Path) : Except SystemFault Location := do
  match ← d.locate p with
  | .unnamed _ => .error (.isDirectory p.text)
  | .named directory name =>
    match d.entry? (directory ++ [name]) with
    | some .directory => .error (.isDirectory p.text)
    | _ => return directory ++ [name]

def readFile (d : Disk) (p : Path) : Except SystemFault String := do
  match ← d.look p with
  | .file content => return content
  | .directory => .error (.isDirectory p.text)

/-- Moves a file onto the place that a path leads to, in one step. -/
def moveFile (d : Disk) (source : Location) (p : Path) : Except SystemFault Disk := do
  match ← d.locate p with
  | .unnamed _ => .error (.busy p.text)
  | .named directory name =>
    match d.entry? source, d.entry? (directory ++ [name]) with
    | some (.file _), some .directory => .error (.isDirectory p.text)
    | some (.file content), _ =>
      return (d.remove source).put (directory ++ [name]) (.file content)
    | _, _ => .error (.missing p.text)

end Disk
end StructBridge.Files
