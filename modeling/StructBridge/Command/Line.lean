import StructBridge.Files.Path
import StructBridge.Json.Display

/-!
The command line that a header's comment shows. It is rebuilt from the values that the parameters
took: arguments first, then the options that differ from their defaults, paths by their last
component alone.
-/
namespace StructBridge.Command
open Files

def programName : Text := "objc_struct_codegen"

inductive Value where
  | scalar (v : Json)
  | path (text : Text)
  | choice (label : Text)
  /-- An empty sequence of values. -/
  | none

structure Invocation where
  name : Value
  config : Value
  optionalStyle : Value
  force : Value
  verbose : Value
  path : Value
  output : Value

def finalName (t : Text) : Text := (Path.ofText t).name

/-- A text with a slash or a backslash is taken for a path. -/
def looksLikePath (t : Text) : Bool := t.any fun c => c == .char '/' || c == .char '\\'

namespace Value

def given : Value → Bool
  | scalar .null => false
  | scalar (.bool false) => false
  | none => false
  | _ => true

/-- Whether a flag has its default value. -/
def isOff : Value → Bool
  | scalar v => v.same (.bool false)
  | _ => false

def display : Value → Text
  | scalar (.str t) => if looksLikePath t then finalName t else t
  | scalar v => v.shown
  | path text => finalName text
  | choice label => label
  | none => ""

def asArgument (v : Value) : List Text := if v.given then [v.display] else []

def asOption (option : Text) (v : Value) : List Text :=
  if v.given then [option, v.display] else []

def asFlag (option : Text) (v : Value) : List Text :=
  if v.given && !v.isOff then [option] else []

end Value

def Invocation.words (i : Invocation) : List Text :=
  i.path.asArgument ++ i.output.asArgument ++ i.name.asOption "--name" ++
    i.config.asOption "--config" ++ i.optionalStyle.asOption "--optional-style" ++
    i.force.asFlag "--force" ++ i.verbose.asFlag "--verbose"

/-- The program alone when it was not called from a command line. -/
def lineText (program : Text) (invocation : Option Invocation) : Text :=
  match invocation with
  | some i => List.intercalate " " (program :: i.words)
  | none => program

end StructBridge.Command
