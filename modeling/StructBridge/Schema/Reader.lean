import StructBridge.Name
import StructBridge.Schema.Basic

/-!
Reading a module from its JSON model. The first fault in document order ends the reading; it says
where it lies by the keys and indices that lead there from the value being read.
-/
namespace StructBridge.Schema

inductive Step where
  | key (name : Text)
  | index (i : Nat)
  deriving DecidableEq, Repr

inductive ReadFault where
  | wrong (cause : SchemaCause) (trail : List Step)
  | misuse (use : Misuse)

abbrev Read (α : Type) := Except ReadFault α

def wrong {α : Type} (cause : SchemaCause) : Read α := .error (.wrong cause [])

def ReadFault.under (step : Step) : ReadFault → ReadFault
  | .wrong cause trail => .wrong cause (step :: trail)
  | .misuse use => .misuse use

/-- A reading of what lies one step inside. -/
def under {α : Type} (step : Step) (r : Read α) : Read α := r.mapError (·.under step)

def Step.text : Step → Text
  | key name => "/" ++ name
  | index i => "/" ++ toString i

/-- The path of a trail that starts at `start`. -/
def pathText (start : Text) (trail : List Step) : Text :=
  start ++ trail.flatMap Step.text

theorem pathText_item (start key : Text) (i : Nat) :
    pathText start [.key key, .index i] = start ++ ("/" ++ key ++ "/") ++ toString i := by
  simp only [pathText, Step.text, List.flatMap_cons, List.flatMap_nil, List.append_assoc,
    List.append_nil]

def ReadFault.located (start : Text) : ReadFault → Fault
  | .wrong cause trail => .schema cause (pathText start trail)
  | .misuse use => .misuse use

/-- A reading that starts at the given path. -/
def startingAt {α : Type} (start : Text) (r : Read α) : Except Fault α :=
  r.mapError (·.located start)

theorem sizeOf_lookup_lt {key : Text} {v : Json} {fields : List (Text × Json)}
    (found : fields.lookup key = some v) : sizeOf v < sizeOf fields := by
  induction fields with
  | nil => simp at found
  | cons field rest ih =>
    obtain ⟨k, w⟩ := field
    by_cases same : key = k
    · subst same
      simp only [List.lookup_cons_self, Option.some.injEq] at found
      subst found
      simp only [List.cons.sizeOf_spec, Prod.mk.sizeOf_spec]
      omega
    · have skip : (key == k) = false := by simpa using same
      rw [List.lookup_cons, skip] at found
      have := ih found
      simp only [List.cons.sizeOf_spec]
      omega

theorem sizeOf_field_lt {key : Text} {v w : Json} (found : v.field? key = some w) :
    sizeOf w < sizeOf v := by
  cases v with
  | obj fields =>
    have := sizeOf_lookup_lt found
    simp only [Json.obj.sizeOf_spec]
    omega
  | _ => simp [Json.field?] at found

theorem field_of_given {key : Text} {v w : Json} (found : v.given? key = some w) :
    v.field? key = some w := by
  unfold Json.given? at found
  split at found
  · simp at found
  · exact found

namespace FieldType

/-- The keys under which a type holds the type inside it. -/
def nullableKey : Text := "typeAnnotation"
def elementKey : Text := "elementType"

def ofJson (v : Json) : Read FieldType :=
  match v.field? "type" with
  | none => wrong .typeNotTagged
  | some (.str tag) =>
    match Leaf.ofTag? tag with
    | some kind => .ok (leaf kind)
    | none =>
      if tag = reservedTag ∨ tag = reservedFunctionTag then
        .ok (reserved (v.fieldD "name" (.str "")))
      else if tag = nullableTag then
        match _inside : v.given? nullableKey with
        | none => wrong .nullableEmpty
        | some inner => (under (.key nullableKey) (ofJson inner)).map nullable
      else if tag = arrayTag then
        match _inside : v.given? elementKey with
        | none => .ok untypedArray
        | some element => (under (.key elementKey) (ofJson element)).map array
      else if tag = namedTag then
        let name := v.fieldD "name" .null
        if name.truthy then .ok (named name) else wrong .aliasNameMissing
      else wrong (.unknownType (.str tag))
  | some tag => if tag.isKey then wrong (.unknownType tag) else .error (.misuse (.unkeyable tag))
termination_by sizeOf v
decreasing_by all_goals exact sizeOf_field_lt (field_of_given ‹_›)

end FieldType

/-- Reads every item, each one step inside. -/
def readEach {α : Type} (read : Json → Read α) : Nat → List Json → Read (List α)
  | _, [] => .ok []
  | i, v :: rest => do
    let first ← under (.index i) (read v)
    let others ← readEach read (i + 1) rest
    return first :: others

/-- The list under a key, empty when the key is missing. -/
def listUnder (key : Text) (notList : SchemaCause) (v : Json) : Read (List Json) :=
  match v.fieldD key (.arr []) with
  | .arr items => .ok items
  | _ => under (.key key) (wrong notList)

def Property.ofJson (v : Json) : Read Property :=
  if !v.isObject then wrong .propertyNotObject
  else if !(v.fieldD "name" .null).truthy then wrong .propertyNameMissing
  else
    match v.field? "typeAnnotation", v.fieldD "optional" (.bool false) with
    | none, _ => wrong .propertyTypeMissing
    | some type, .bool optional => do
      let type ← under (.key "typeAnnotation") (FieldType.ofJson type)
      return ⟨v.fieldD "name" .null, type, optional⟩
    | some _, _ => under (.key "optional") (wrong .optionalNotBoolean)

/-- Accessors met so far, each with the name of its property. -/
abbrev Accessors := List (Json × Json)

def Accessors.owner? (accessors : Accessors) (accessor : Json) : Option Json :=
  (accessors.find? (·.1.same accessor)).map (·.2)

/-- Checks that no property takes the accessor of an earlier one. -/
def checkAccessors (taken : Accessors) : Nat → List Property → Read Unit
  | _, [] => .ok ()
  | i, p :: rest => do
    let accessor ← (Name.accessor p.name).mapError ReadFault.misuse
    match taken.owner? accessor with
    | some earlier =>
      under (.key "properties") (under (.index i) (wrong (.accessorClash earlier p.name accessor)))
    | none => checkAccessors ((accessor, p.name) :: taken) (i + 1) rest

def Struct.ofJson (v : Json) : Read Struct :=
  if !v.isObject then wrong .structNotObject
  else if !(v.fieldD "name" .null).truthy then wrong .structNameMissing
  else do
    let items ← listUnder "properties" .propertiesNotList v
    let properties ← under (.key "properties") (readEach Property.ofJson 0 items)
    checkAccessors [] 0 properties
    return ⟨.regular, v.fieldD "name" .null, properties⟩

/-- A name given beside the model stands for the model's own. -/
def Module.ofJson (v : Json) (nameGiven : Json) : Read Module :=
  if !v.isObject then wrong .modelNotObject
  else
    let name := if nameGiven.truthy then nameGiven else v.fieldD "moduleName" .null
    if !name.truthy then under (.key "moduleName") (wrong .moduleNameMissing)
    else do
      let items ← listUnder "structs" .structsNotList v
      let structs ← under (.key "structs") (readEach Struct.ofJson 0 items)
      return ⟨name, structs⟩

end StructBridge.Schema
