import StructBridge.Code.Style
import StructBridge.Fault

/-!
The settings of a run. Only the optional style and the output mode are checked when settings are
read; every other value is kept as it was given and interpreted where it is used. Besides the
settings, a few keys reach the record that holds them: one replaces the whole record, which can
leave settings without a value.
-/
namespace StructBridge
open Code

inductive OutputMode where
  | keep
  | force
  deriving DecidableEq, Repr

def OutputMode.label : OutputMode → Text
  | keep => "error"
  | force => "force"

def OutputMode.ofLabel? (label : Text) : Option OutputMode :=
  [OutputMode.keep, .force].find? (·.label = label)

/-- A mode that is given as text is one of the two; any other value stays uninterpreted. -/
inductive ModeSetting where
  | mode (m : OutputMode)
  | other (v : Json)

/-- A style that was checked, or a value that came with a whole record. -/
inductive StyleSetting where
  | style (s : OptionalStyle)
  | other (v : Json)

structure OutputSettings where
  mode : ModeSetting
  validateBeforeWrite : Json
  atomicWrite : Json

/-- Output settings that were not given as an object stay uninterpreted. -/
inductive OutputSetting where
  | settings (s : OutputSettings)
  | other (v : Json)

structure Config where
  ignoreStructs : Option Json
  orderStructs : Option Json
  addGenerationComment : Json
  optionalStyle : StyleSetting
  parallel : Json
  output : Option OutputSetting
  /-- Whether a value stands in the way of writing the settings out. -/
  blocked : Bool

def OutputSettings.standard : OutputSettings := ⟨.mode .keep, .bool true, .bool true⟩

def Config.standard : Config where
  ignoreStructs := some (.arr [])
  orderStructs := some (.arr [])
  addGenerationComment := .bool true
  optionalStyle := .style .folly
  parallel := .bool false
  output := some (.settings .standard)
  blocked := false

def styleOf (v : Json) : Except Fault OptionalStyle :=
  match v.text?.bind OptionalStyle.ofLabel? with
  | some style => .ok style
  | none => .error (.unknownChoice .optionalStyle v)

/-- The style that a setting names; a value that came unchecked may name none. -/
def StyleSetting.resolve : StyleSetting → Except Misuse OptionalStyle
  | style s => .ok s
  | other v =>
    if v.isKey then (v.text?.bind OptionalStyle.ofLabel?).elim (.error (.noEntry v)) .ok
    else .error (.unkeyable v)

def ModeSetting.ofJson (v : Json) : Except Fault ModeSetting :=
  match v with
  | .str label =>
    match OutputMode.ofLabel? label with
    | some m => .ok (.mode m)
    | none => .error (.unknownChoice .outputMode v)
  | v => .ok (.other v)

def OutputSettings.ofJson (v : Json) : Except Fault OutputSettings := do
  let mode ← ModeSetting.ofJson (v.fieldD "mode" (.str OutputMode.keep.label))
  return ⟨mode, v.fieldD "validate_before_write" (.bool true), v.fieldD "atomic_write" (.bool true)⟩

namespace Config

def ignoreKey : Text := "ignore_structs"
def orderKey : Text := "order_structs"
def commentKey : Text := "add_generation_comment"
def styleKey : Text := "optional_style"
def parallelKey : Text := "parallel"
def outputKey : Text := "output"

/-- The keys that reach the record itself: the kind of record it is and the references to it, which
cannot be given, the record as a whole, and how it is written out. -/
def kindKey : Text := "__class__"
def referencesKey : Text := "__weakref__"
def recordKey : Text := "__dict__"
def exportKey : Text := "to_dict"

/-- The settings of a record that is given whole. The two lists and the output have no values of
their own to fall back on. -/
def ofRecord (fields : List (Text × Json)) : Config where
  ignoreStructs := fields.lookup ignoreKey
  orderStructs := fields.lookup orderKey
  addGenerationComment := (fields.lookup commentKey).getD standard.addGenerationComment
  optionalStyle := (fields.lookup styleKey).elim standard.optionalStyle .other
  parallel := (fields.lookup parallelKey).getD standard.parallel
  output := (fields.lookup outputKey).map .other
  blocked := (fields.lookup exportKey).isSome

/-- Gives a key its value without looking at the value; unknown keys are passed over. -/
def put (config : Config) (key : Text) (v : Json) : Except Fault Config :=
  if key = ignoreKey then .ok { config with ignoreStructs := some v }
  else if key = orderKey then .ok { config with orderStructs := some v }
  else if key = commentKey then .ok { config with addGenerationComment := v }
  else if key = parallelKey then .ok { config with parallel := v }
  else if key = outputKey then .ok { config with output := some (.other v) }
  else if key = exportKey then .ok { config with blocked := true }
  else if key = kindKey then .error (.misuse (.notKind v))
  else if key = referencesKey then .error (.misuse (.fixed v))
  else if key = recordKey then
    match v with
    | .obj fields => .ok (ofRecord fields)
    | v => .error (.misuse (.notRecord v))
  else .ok config

def has (config : Config) (key : Text) : Bool :=
  if key = ignoreKey then config.ignoreStructs.isSome
  else if key = orderKey then config.orderStructs.isSome
  else if key = outputKey then config.output.isSome
  else true

/-- Gives a key its value as a settings file does. -/
def read (config : Config) (key : Text) (v : Json) : Except Fault Config :=
  if key = styleKey then
    (styleOf v).map fun style => { config with optionalStyle := .style style }
  else if key = outputKey ∧ v.isObject then
    (OutputSettings.ofJson v).map fun s => { config with output := some (.settings s) }
  else if config.has key then config.put key v
  else .ok config

def readAll (config : Config) : List (Text × Json) → Except Fault Config
  | [] => .ok config
  | (key, v) :: rest => do (← config.read key v).readAll rest

def ofJson (v : Json) : Except Fault Config :=
  match v with
  | .obj fields => standard.readAll fields
  | v => .error (.misuse (.notSettings v))

end Config

def ModeSetting.toJson : ModeSetting → Except Misuse Json
  | mode m => .ok (.str m.label)
  | other v => .error (.notSettings v)

def StyleSetting.toJson : StyleSetting → Except Misuse Json
  | style s => .ok (.str s.label)
  | other v => .error (.notSettings v)

def OutputSetting.toJson : OutputSetting → Except Misuse Json
  | settings s => do
    let mode ← s.mode.toJson
    return .obj [("mode", mode), ("validate_before_write", s.validateBeforeWrite),
      ("atomic_write", s.atomicWrite)]
  | other v => .error (.notSettings v)

namespace Config

/-- The value of a setting, which a record given whole may lack. -/
def require {α : Type} (key : Text) : Option α → Except Misuse α
  | some v => .ok v
  | none => .error (.settingMissing key)

def toJson (config : Config) : Except Misuse Json := do
  if config.blocked then .error (.notCallable exportKey)
  let ignoreStructs ← require ignoreKey config.ignoreStructs
  let orderStructs ← require orderKey config.orderStructs
  let style ← config.optionalStyle.toJson
  let output ← require outputKey config.output
  let output ← output.toJson
  return .obj [(ignoreKey, ignoreStructs), (orderKey, orderStructs),
    (commentKey, config.addGenerationComment), (styleKey, style), (parallelKey, config.parallel),
    (outputKey, output)]

end Config

def ModeSetting.same : ModeSetting → ModeSetting → Bool
  | mode m, mode m' => m == m'
  | other v, other v' => v.same v'
  | _, _ => false

def StyleSetting.same : StyleSetting → StyleSetting → Bool
  | style s, style s' => s == s'
  | other v, other v' => v.same v'
  | _, _ => false

def OutputSetting.same : OutputSetting → OutputSetting → Bool
  | settings s, settings s' =>
    s.mode.same s'.mode && s.validateBeforeWrite.same s'.validateBeforeWrite &&
      s.atomicWrite.same s'.atomicWrite
  | other v, other v' => v.same v'
  | _, _ => false

/-- Whether two settings have the same value or both have none. -/
def sameGiven {α : Type} (same : α → α → Bool) : Option α → Option α → Bool
  | some v, some v' => same v v'
  | none, none => true
  | _, _ => false

def Config.same (c c' : Config) : Bool :=
  sameGiven Json.same c.ignoreStructs c'.ignoreStructs &&
    sameGiven Json.same c.orderStructs c'.orderStructs &&
    c.addGenerationComment.same c'.addGenerationComment &&
    c.optionalStyle.same c'.optionalStyle && c.parallel.same c'.parallel &&
    sameGiven OutputSetting.same c.output c'.output

/-- Sets the force mode, which needs output settings to be set in. -/
def Config.forced (config : Config) : Except Fault Config :=
  match config.output with
  | some (.settings s) =>
    .ok { config with output := some (.settings { s with mode := .mode .force }) }
  | some (.other v) => .error (.misuse (.notSettings v))
  | none => .error (.misuse (.settingMissing Config.outputKey))

end StructBridge
