import StructBridge.Command.Arguments
import StructBridge.Generator
import StructBridge.Json.Reader

/-!
One call of the program: the arguments are understood, the model and the settings read, the header
generated and written. A run ends in one of a few ways and leaves a disk; everything before the
write leaves the disk as it was.
-/
namespace StructBridge.Command
open Schema Code Files

/-- What is reported on the way. -/
inductive Event where
  | serializing (struct : Json) (properties : Nat)
  | generated (structs : Nat) (moduleName : Json)
  | wrote (atomically : Bool) (path : Text)
  | failed

inductive Crash where
  | fault (f : Fault)
  | unreadable (f : Json.ReadFault)

inductive Ending where
  | done
  | help
  | usage (fault : UsageFault)
  /-- A fault of the model, of the header or of the place where it was to go. -/
  | reported (fault : Fault)
  | crashed (crash : Crash)

structure Run where
  ending : Ending
  events : List Event
  disk : Disk

def Event.text : Event → Text
  | serializing struct properties =>
    "DEBUG objc_struct_codegen.pipeline.generator: Serializing struct " ++ struct.shown ++ " (" ++
      toString properties ++ " properties)"
  | generated structs moduleName =>
    "INFO objc_struct_codegen.pipeline.generator: Generated " ++ toString structs ++
      " struct(s) for module " ++ moduleName.shown
  | wrote true path => "INFO objc_struct_codegen.pipeline.writer.atomic_writer: Wrote " ++ path
  | wrote false path => "INFO objc_struct_codegen.pipeline.generator: Wrote " ++ path
  | failed => "DEBUG objc_struct_codegen.objc_struct_codegen: Generation failed"

def isReported : Fault → Bool
  | .schema .. | .unmappableType _ | .unmappableValue _ | .unsupportedStruct .. | .rejected _
  | .outputExists _ | .system (.occupied _) => true
  | _ => false

def Ending.ofFault (fault : Fault) : Ending :=
  if isReported fault then .reported fault else .crashed (.fault fault)

def Ending.events : Ending → List Event
  | reported _ => [.failed]
  | _ => []

/-- The structs that are coded, up to the first that fails. -/
def attempted (g : Generator) : List Struct → List Struct
  | [] => []
  | s :: rest =>
    match g.structCode s with
    | .ok _ => s :: attempted g rest
    | .error _ => [s]

def progress (g : Generator) : List Event :=
  match g.selected with
  | .error _ => []
  | .ok structs =>
    (attempted g structs).map (fun s => .serializing s.name s.properties.length) ++
      (if g.structCodes matches .ok _ then [.generated structs.length g.module.name] else [])

def writeEvents (config : Config) (p : Path) : Except Fault Unit → List Event
  | .ok () =>
    match config.output with
    | some (.settings s) => [.wrote s.atomicWrite.truthy p.text]
    | _ => []
  | .error _ => []

def Request.invocation (r : Request) : Invocation where
  name := .scalar (r.name.elim .null .str)
  config := .scalar (r.config.elim .null fun l => .str (absolutePath l).text)
  optionalStyle := .scalar (r.optionalStyle.elim .null fun style => .str style.label)
  force := .scalar (.bool r.force)
  verbose := .scalar (.bool r.verbose)
  path := .scalar (.str (absolutePath r.model).text)
  output := .scalar (.str (absolutePath r.output).text)

def readJson (d : Disk) (l : Location) : Except Crash Json := do
  let text ← (d.readFile (absolutePath l)).mapError fun f => Crash.fault (.system f)
  (Json.read text).mapError Crash.unreadable

/-- The settings file, overridden by the options of the call. -/
def Request.settings (r : Request) (d : Disk) : Except Crash Config := do
  let config ← match r.config with
    | some l => do (Config.ofJson (← readJson d l)).mapError Crash.fault
    | none => pure .standard
  let config := match r.optionalStyle with
    | some style => { config with optionalStyle := .style style }
    | none => config
  if r.force then config.forced.mapError Crash.fault else return config

/-- The name given by the call; without one, the file's own name where the model has none. -/
def Request.moduleName (r : Request) (model : Json) : Json :=
  match r.name with
  | some name => .str name
  | none =>
    if (model.fieldD "moduleName" .null).truthy then .null
    else .str (absolutePath r.model).stem

/-- The generation that a call asks for. -/
def Request.inputs (r : Request) (d : Disk) : Except Crash (Json × Config) := do
  let model ← readJson d r.model
  return (model, ← r.settings d)

def Request.run (r : Request) (d : Disk) : Run :=
  match r.inputs d with
  | .error crash => ⟨.crashed crash, [], d⟩
  | .ok (model, config) =>
    match Generator.make (.model model) (r.moduleName model) config with
    | .error fault => ⟨.ofFault fault, (Ending.ofFault fault).events, d⟩
    | .ok g =>
      let p := absolutePath r.output
      let writing := g.write r.invocation d p
      let ending := match writing.result with
        | .ok () => .done
        | .error fault => .ofFault fault
      ⟨ending, progress g ++ writeEvents config p writing.result ++ ending.events, writing.disk⟩

/-- The run of a call. Events are reported to a verbose call alone. -/
def run (d : Disk) (words : List Text) : Run :=
  match readArguments words with
  | .error fault => ⟨.usage fault, [], d⟩
  | .ok a =>
    if a.options.any (·.1 = .help) then ⟨.help, [], d⟩
    else
      match Request.of d a with
      | .error (.usage fault) => ⟨.usage fault, [], d⟩
      | .error (.fault fault) => ⟨.crashed (.fault fault), [], d⟩
      | .ok r =>
        let result := r.run d
        if r.verbose then result else { result with events := [] }

def Ending.exitCode : Ending → Nat
  | done | help => 0
  | usage _ => 2
  | reported _ | crashed _ => 1

end StructBridge.Command
