import StructBridge.Config
import StructBridge.Schema.Basic
import StructBridge.Text.Search

/-!
Which structs are generated, and in which order: structs whose name is ignored are dropped; of the
others the ones whose name is listed come first, in the order of the list, and of several structs of
one listed name the last stands for all.
-/
namespace StructBridge
open Schema

/-- Whether a setting mentions a name: a list by its items, an object by its keys, a text by the
texts inside it. -/
def mentions (setting name : Json) : Except Misuse Bool :=
  match setting with
  | .arr items => .ok (items.any name.same)
  | .obj fields =>
    if name.isKey then .ok (fields.any fun field => name.same (.str field.1))
    else .error (.unkeyable name)
  | .str text =>
    match name with
    | .str part => .ok (Text.occursIn part text)
    | v => .error (.unsearchable v)
  | v => .error (.unsearchable v)

/-- The names that a setting mentions, in order: of a text its code points. -/
def mentioned : Json → Except Misuse (List Json)
  | .arr items => .ok items
  | .obj fields => .ok (fields.map fun field => .str field.1)
  | .str text => .ok (text.map fun c => .str [c])
  | v => .error (.unsearchable v)

/-- The structs with no such name, by a setting that may be unable to tell. -/
def dropMentioned (setting : Except Misuse Json) : List Struct → Except Misuse (List Struct)
  | [] => .ok []
  | s :: rest => do
    let named ← mentions (← setting) s.name
    let others ← dropMentioned setting rest
    return if named then others else s :: others

def requireKeys (names : List Json) : Except Misuse Unit :=
  match names.find? (!·.isKey) with
  | some v => .error (.unkeyable v)
  | none => .ok ()

/-- The names without repetitions, each at its first place. -/
def firstMentions : List Json → List Json
  | [] => []
  | name :: rest => name :: (firstMentions rest).filter (!·.same name)

def lastNamed? (structs : List Struct) (name : Json) : Option Struct :=
  structs.reverse.find? (·.name.same name)

def selectStructs (config : Config) (structs : List Struct) : Except Misuse (List Struct) := do
  let order := Config.require Config.orderKey config.orderStructs
  let kept ← dropMentioned (Config.require Config.ignoreKey config.ignoreStructs) structs
  requireKeys (kept.map (·.name))
  let names ← mentioned (← order)
  requireKeys names
  let listed := (firstMentions names).filterMap (lastNamed? kept)
  let others ← dropMentioned order kept
  return listed ++ others

end StructBridge
