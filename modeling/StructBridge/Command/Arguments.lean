import StructBridge.Code.Style
import StructBridge.Files.Disk

/-!
The arguments of a call. Options stand anywhere before a double dash, short flags may be clustered,
and the last of several equal options counts. What the options say is then checked in the order in
which they first appear, before the two paths.
-/
namespace StructBridge.Command
open Code Files

inductive Switch where
  | name
  | config
  | optionalStyle
  | force
  | verbose
  | help
  deriving DecidableEq, Repr

/-- A call that cannot be understood. -/
inductive UsageFault where
  | unknownOption (text : Text)
  | valueMissing (switch : Switch)
  | valueUnexpected (switch : Switch)
  | styleUnknown (text : Text)
  | fileMissing (text : Text)
  | argumentMissing
  | argumentUnexpected
  deriving DecidableEq, Repr

namespace Switch

def takesValue : Switch → Bool
  | name | config | optionalStyle => true
  | force | verbose | help => false

def label : Switch → Text
  | name => "--name"
  | config => "--config"
  | optionalStyle => "--optional-style"
  | force => "--force"
  | verbose => "--verbose"
  | help => "--help"

def letter? : Switch → Option Char
  | name => some 'n'
  | config => some 'c'
  | force => some 'f'
  | verbose => some 'v'
  | optionalStyle | help => none

def all : List Switch := [name, config, optionalStyle, force, verbose, help]

def ofLabel? (label : Text) : Option Switch := all.find? (·.label = label)

def ofLetter? (c : CodePoint) : Option Switch :=
  all.find? fun s => s.letter?.any fun letter => c = .char letter

end Switch

/-- What one word of the call sets: flags, then at most one option, whose value stands in the word
itself or is the next word. -/
structure Setting where
  flags : List Switch
  valued : Option (Switch × Option Text)

def isOptionText : Text → Bool
  | .char '-' :: _ :: _ => true
  | _ => false

/-- The text before the first equals sign and the text after it. -/
def splitValue (word : Text) : Text × Option Text :=
  match word.dropWhile (· ≠ .char '=') with
  | [] => (word, none)
  | _ :: value => (word.takeWhile (· ≠ .char '='), some value)

def readCluster (word : Text) : Text → Except UsageFault Setting
  | [] => .ok ⟨[], none⟩
  | c :: rest =>
    match Switch.ofLetter? c with
    | none => .error (.unknownOption word)
    | some s =>
      if s.takesValue then .ok ⟨[], some (s, if rest.isEmpty then none else some rest)⟩
      else (readCluster word rest).map fun more => { more with flags := s :: more.flags }

def readOption (word : Text) : Except UsageFault Setting :=
  let (label, value) := splitValue word
  match Switch.ofLabel? label with
  | some s =>
    if s.takesValue then .ok ⟨[], some (s, value)⟩
    else if value.isSome then .error (.valueUnexpected s)
    else .ok ⟨[s], none⟩
  | none =>
    match word with
    | .char '-' :: .char '-' :: _ => .error (.unknownOption word)
    | _ => readCluster word (word.drop 1)

structure Arguments where
  /-- The options in the order in which they stand, flags without a value. -/
  options : List (Switch × Option Text)
  words : List Text

def Arguments.withOptions (options : List (Switch × Option Text)) (a : Arguments) : Arguments :=
  { a with options := options ++ a.options }

def readArguments : List Text → Except UsageFault Arguments
  | [] => .ok ⟨[], []⟩
  | word :: rest =>
    if word = "--" then .ok ⟨[], rest⟩
    else if !isOptionText word then
      (readArguments rest).map fun a => { a with words := word :: a.words }
    else
      match readOption word with
      | .error fault => .error fault
      | .ok ⟨flags, valued⟩ =>
        let flags := flags.map (·, none)
        match valued, rest with
        | none, rest => (readArguments rest).map (·.withOptions flags)
        | some (s, some value), rest =>
          (readArguments rest).map (·.withOptions (flags ++ [(s, some value)]))
        | some (s, none), value :: rest =>
          (readArguments rest).map (·.withOptions (flags ++ [(s, some value)]))
        | some (s, none), [] => .error (.valueMissing s)

def Arguments.value? (a : Arguments) (s : Switch) : Option Text :=
  (a.options.reverse.lookup s).join

/-- A call that was understood, with its paths resolved. -/
structure Request where
  name : Option Text
  config : Option Location
  optionalStyle : Option OptionalStyle
  force : Bool
  verbose : Bool
  model : Location
  output : Location

inductive Refusal where
  | usage (fault : UsageFault)
  | fault (f : Fault)

def resolvePath (d : Disk) (text : Text) : Except Refusal Location :=
  if text.nameSize?.isNone then .error (.fault (.system .unencodable))
  else if text.contains (.char '\x00') then .error (.fault (.system .nullInPath))
  else .ok (d.resolve (Path.ofText text))

def resolveExisting (d : Disk) (text : Text) : Except Refusal Location := do
  let l ← resolvePath d text
  match d.look (absolutePath l) with
  | .ok _ => return l
  | .error _ => .error (.usage (.fileMissing text))

def Request.blank : Request := ⟨none, none, none, false, false, [], []⟩

def Request.takeOption (d : Disk) (a : Arguments) (r : Request) (s : Switch) :
    Except Refusal Request :=
  match s, a.value? s with
  | .name, value => .ok { r with name := value }
  | .config, some text => (resolveExisting d text).map fun l => { r with config := some l }
  | .optionalStyle, some text =>
    match OptionalStyle.ofLabel? text with
    | some style => .ok { r with optionalStyle := some style }
    | none => .error (.usage (.styleUnknown text))
  | .force, _ => .ok { r with force := true }
  | .verbose, _ => .ok { r with verbose := true }
  | _, _ => .ok r

def Request.takeWords (d : Disk) (r : Request) : List Text → Except Refusal Request
  | model :: words => do
    let model ← resolveExisting d model
    match words with
    | [] => .error (.usage .argumentMissing)
    | output :: more =>
      let output ← resolvePath d output
      if more.isEmpty then return { r with model, output }
      else .error (.usage .argumentUnexpected)
  | [] => .error (.usage .argumentMissing)

def Request.of (d : Disk) (a : Arguments) : Except Refusal Request := do
  let r ← (a.options.map (·.1)).eraseDups.foldlM (takeOption d a) blank
  r.takeWords d a.words

end StructBridge.Command
