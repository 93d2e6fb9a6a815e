import StructBridge.Command.Line
import StructBridge.Files.Writer
import StructBridge.Schema.Reader
import StructBridge.Selection

/-!
The generation of one module's header. The optional style in force is the one that was configured
when the generator was made; every other setting is read when it is used. A style that names neither
of the two stops the generation where the first text depends on it.
-/
namespace StructBridge
open Schema Code Files Command

structure Generator where
  module : Schema.Module
  style : StyleSetting
  config : Config

/-- What a generator is made from: a model still to be read, or a module. -/
inductive Source where
  | model (v : Json)
  | module (m : Schema.Module)

/-- A name given beside the source stands for the module's own. -/
def Source.resolve (nameGiven : Json) : Source → Except Fault Schema.Module
  | model v => startingAt "#" (Module.ofJson v nameGiven)
  | module m => .ok (if nameGiven.truthy then { m with name := nameGiven } else m)

/-- Results of tasks, each run on its own: the first fault in order decides. -/
def gather {α : Type} : List (Except Fault α) → Except Fault (List α)
  | [] => .ok []
  | first :: rest => do
    let a ← first
    let others ← gather rest
    return a :: others

/-- Tasks that run on their own answer as tasks that run in turn. -/
theorem gather_map {α β : Type} (f : α → Except Fault β) (xs : List α) :
    gather (xs.map f) = xs.mapM f := by
  induction xs with
  | nil => rfl
  | cons x rest ih => rw [List.map_cons, gather, ih, List.mapM_cons]

namespace Generator

def make (source : Source) (nameGiven : Json) (config : Config) : Except Fault Generator := do
  let m ← source.resolve nameGiven
  return ⟨m, config.optionalStyle, config⟩

theorem make_ok_iff {source : Source} {nameGiven : Json} {config : Config} {g : Generator} :
    make source nameGiven config = .ok g ↔
      ∃ m, source.resolve nameGiven = .ok m ∧ g = ⟨m, config.optionalStyle, config⟩ := by
  unfold make
  cases source.resolve nameGiven with
  | error fault =>
    constructor
    · intro made
      cases made
    · rintro ⟨_, resolved, _⟩
      cases resolved
  | ok m =>
    constructor
    · intro made
      exact ⟨m, rfl, (Except.ok.inj made).symm⟩
    · rintro ⟨_, resolved, rfl⟩
      obtain rfl := Except.ok.inj resolved
      rfl

def selected (g : Generator) : Except Fault (List Struct) :=
  ofUse (selectStructs g.config g.module.structs)

/-- Whether coding a property comes to the point where the style is spelled. -/
def reachesStyle (naming : Naming) (moduleName : Text) (p : Property) : Bool :=
  match naming.accessor p.name, declaredType naming moduleName p.type p.optional with
  | .ok _, .ok type => type.isStyled
  | _, _ => false

/-- The code of a struct when no style can be spelled: of all properties before the first that needs
one. -/
def unstyledCode (reason : Misuse) (moduleName : Text) (s : Struct) : Except Fault StructCode := do
  let naming := Naming.standard .folly
  let before := s.properties.takeWhile fun p => !reachesStyle naming moduleName p
  let code ← StructCode.ofRegular naming moduleName { s with properties := before }
  if before.length < s.properties.length then .error (.misuse reason) else return code

def structCode (g : Generator) (s : Struct) : Except Fault StructCode :=
  match g.style.resolve with
  | .ok style => StructCode.ofRegular (.standard style) g.module.name.shown s
  | .error reason => unstyledCode reason g.module.name.shown s

def structCodes (g : Generator) : Except Fault (List StructCode) := do
  let structs ← g.selected
  if g.config.parallel.truthy ∧ 1 < structs.length then gather (structs.map g.structCode)
  else structs.mapM g.structCode

def comment (g : Generator) (invocation : Option Invocation) : Text :=
  if g.config.addGenerationComment.truthy then
    "// Generated by objc_struct_codegen v1.0.0 : " ++ lineText programName invocation
  else ""

def header (g : Generator) (invocation : Option Invocation) : Except Fault Text := do
  let codes ← g.structCodes
  let style ← ofUse g.style.resolve
  return headerText style codes (g.comment invocation)

def write (g : Generator) (invocation : Option Invocation) (d : Disk) (p : Path) : Writing :=
  match g.header invocation with
  | .error fault => .failed d fault
  | .ok content =>
    match g.config.output with
    | some (.settings s) => writeHeader s d p content
    | some (.other v) => .failed d (.misuse (.notSettings v))
    | none => .failed d (.misuse (.settingMissing Config.outputKey))

/-- Changes a setting. The optional style has to be one of the two. -/
def set (g : Generator) (key : Text) (v : Json) : Except Fault Generator := do
  let config ← if key = Config.styleKey then
    (styleOf v).map fun style => { g.config with optionalStyle := .style style }
  else g.config.put key v
  return { g with config }

end Generator
end StructBridge
