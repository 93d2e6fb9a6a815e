import StructBridge.Code.Header
import StructBridge.Config
import StructBridge.Files.Disk

/-!
Writing a header to a file. An atomic write fills a draft beside the file and moves it into place
once the content has passed inspection; a failed one leaves no draft. A plain write empties the file
and fills it again. A content that has no encoding fills neither.
-/
namespace StructBridge.Files

/-- What is done with a content before it takes its place. -/
structure Inspection where
  verdict : Text → Option Rejection
  /-- Whether the inspection takes the draft away. -/
  discardsDraft : Bool

def Inspection.standard : Inspection := ⟨Code.rejection?, false⟩

structure Writing where
  disk : Disk
  /-- Whether the content came to inspection. -/
  inspected : Bool
  result : Except Fault Unit

def Writing.failed (d : Disk) (fault : Fault) : Writing := ⟨d, false, .error fault⟩

def draftToken (k : Nat) : Text :=
  let digits := Nat.toDigits 10 k
  (List.replicate (8 - digits.length) '0' ++ digits).map .char

def draftName (name : Text) (k : Nat) : Text := "." ++ name ++ "." ++ draftToken k ++ ".tmp"

namespace Disk

/-- The first draft name that is free in a directory. -/
def freeDraftName (d : Disk) (directory : Location) (name : Text) : Text :=
  let free (k : Nat) : Bool := (d.entry? (directory ++ [draftName name k])).isNone
  draftName name (((List.range (d.entries.length + 1)).find? free).getD d.entries.length)

/-- The path by which the draft of a file is opened: from a root, however the file is named. -/
def draftPath (d : Disk) (p : Path) : Path := (d.absolute p.parent).child (draftName p.name 0)

/-- Where the draft of a file is filled. -/
def draftOf (d : Disk) (p : Path) : Except SystemFault Location := do
  match ← d.locate (d.draftPath p) with
  | .unnamed _ => .error (.busy p.text)
  | .named directory _ => return directory ++ [d.freeDraftName directory p.name]

def writeAtomically (d : Disk) (inspection : Inspection) (p : Path) (content : Text)
    (validate : Bool) : Writing :=
  match d.ensureDirectory p.parent with
  | (d, .error fault) => .failed d (.system fault)
  | (d, .ok ()) =>
    match d.draftOf p, content.string? with
    | .error fault, _ => .failed d (.system fault)
    | .ok _, none => .failed d (.system .unencodable)
    | .ok draft, some encoded =>
      let drafted := d.put draft (.file encoded)
      let left := if validate && inspection.discardsDraft then drafted.remove draft else drafted
      match if validate then inspection.verdict content else none with
      | some reason => ⟨left.remove draft, validate, .error (.rejected reason)⟩
      | none =>
        match left.moveFile draft p with
        | .ok moved => ⟨moved, validate, .ok ()⟩
        | .error fault => ⟨left.remove draft, validate, .error (.system fault)⟩

def unlessFound (d : Disk) (p : Path) (write : Writing) : Writing :=
  match d.found? p with
  | .error fault => .failed d (.system fault)
  | .ok (some _) => .failed d (.outputExists p.text)
  | .ok none => write

def writeNew (d : Disk) (inspection : Inspection) (p : Path) (content : Text) (validate : Bool) :
    Writing :=
  d.unlessFound p (d.writeAtomically inspection p content validate)

def writeInPlace (d : Disk) (p : Path) (content : Text) (validate : Bool) : Writing :=
  match if validate then Code.rejection? content else none with
  | some reason => ⟨d, validate, .error (.rejected reason)⟩
  | none =>
    match d.writable p, content.string? with
    | .error fault, _ => ⟨d, validate, .error (.system fault)⟩
    | .ok l, none => ⟨d.put l (.file ""), validate, .error (.system .unencodable)⟩
    | .ok l, some encoded => ⟨d.put l (.file encoded), validate, .ok ()⟩

end Disk

def keeps : ModeSetting → Bool
  | .mode .keep => true
  | _ => false

/-- Writes a header as the output settings say. -/
def writeHeader (settings : OutputSettings) (d : Disk) (p : Path) (content : Text) : Writing :=
  let validate := settings.validateBeforeWrite.truthy
  let write :=
    if settings.atomicWrite.truthy then d.writeAtomically .standard p content validate
    else d.writeInPlace p content validate
  if keeps settings.mode then d.unlessFound p write else write

end StructBridge.Files
