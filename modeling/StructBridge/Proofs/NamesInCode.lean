import StructBridge.Proofs.HeaderParts

/-!
Which names stand in generated code. Those of a declared type are names of structs that the type of
a property refers to, those of an expression also the raw value and the numbered items. So what
holds of all these names holds of every name in the code.
-/
namespace StructBridge
open Schema Code

namespace Schema.FieldType

/-- All names of structs inside a type. -/
def Refers (suits : Json → Prop) : FieldType → Prop
  | named name => suits name
  | array element => element.Refers suits
  | nullable inner => inner.Refers suits
  | _ => True

theorem Refers.imp {suits suits' : Json → Prop} {t : FieldType}
    (weaker : ∀ name, suits name → suits' name) (refers : t.Refers suits) : t.Refers suits' := by
  induction t with
  | named name => exact weaker name refers
  | array element ih => exact ih refers
  | nullable inner ih => exact ih refers
  | _ => trivial

theorem Refers.unwrap {suits : Json → Prop} {t : FieldType} (refers : t.Refers suits) :
    t.unwrap.1.Refers suits := by
  cases t <;> exact refers

end Schema.FieldType

/-- What holds of all names of a struct: its own, those of its properties and those of the structs
that these refer to. -/
structure StructNames (suits : Json → Prop) (s : Struct) : Prop where
  name : suits s.name
  properties : ∀ p ∈ s.properties, suits p.name ∧ p.type.Refers suits

structure ModuleNames (suits : Json → Prop) (m : Schema.Module) : Prop where
  name : suits m.name
  structs : ∀ s ∈ m.structs, StructNames suits s

namespace Code

def DeclaredType.Names (suits : Text → Prop) : DeclaredType → Prop
  | .struct name => suits name
  | .vector element => element.Names suits
  | .optional inner => inner.Names suits
  | _ => True

def Conversion.Names (suits : Text → Prop) : Conversion → Prop
  | .raw value => suits value
  | .bridged _ _ value => suits value
  | .construct struct value => suits struct ∧ suits value
  | .constructOptional struct value => suits struct ∧ suits value
  | .vector _ value element item body =>
    suits value ∧ element.Names suits ∧ suits item ∧ body.Names suits

variable {naming : Naming} {moduleName : Text} {suits : Text → Prop}

theorem unlessRequired_names {t : DeclaredType} (required : Bool) (names : t.Names suits) :
    (t.unlessRequired required).Names suits := by
  cases required with
  | true => exact names
  | false => exact names

/-- The walks over a type that has lost its wrapper meet no other names. -/
def BareNames (naming : Naming) (moduleName : Text) (suits : Text → Prop) (t : FieldType) : Prop :=
  ∀ required,
    (∀ type, bareType naming moduleName required t = .ok type → type.Names suits) ∧
    ∀ value depth e, suits value →
      bareConversion naming moduleName required value depth t = .ok e → e.Names suits

theorem leaf_names (kind : Leaf) : BareNames naming moduleName suits (.leaf kind) := by
  intro required
  constructor
  · intro type declared
    cases kind <;> obtain rfl := Except.ok.inj declared <;> cases required <;> trivial
  · intro value depth e given converted
    cases kind <;> obtain rfl := Except.ok.inj converted <;> exact given

theorem reserved_names (name : Json) : BareNames naming moduleName suits (.reserved name) := by
  intro required
  constructor
  · intro type declared
    obtain ⟨isTag, _, declared⟩ := ok_of_bind declared
    cases isTag with
    | true =>
      obtain rfl := Except.ok.inj declared
      exact unlessRequired_names required trivial
    | false => cases declared
  · intro value depth e given converted
    obtain ⟨isTag, _, converted⟩ := ok_of_bind converted
    cases isTag with
    | true =>
      obtain rfl := Except.ok.inj converted
      exact given
    | false => cases converted

theorem named_names {name : Json}
    (struct : ∀ s, naming.structName moduleName name = .ok s → suits s) :
    BareNames naming moduleName suits (.named name) := by
  intro required
  constructor
  · intro type declared
    obtain ⟨s, made, declared⟩ := ok_of_bind declared
    obtain rfl := Except.ok.inj declared
    exact unlessRequired_names required (struct s made)
  · intro value depth e given converted
    obtain ⟨s, made, converted⟩ := ok_of_bind converted
    obtain rfl := Except.ok.inj converted
    cases required with
    | true => exact ⟨struct s made, given⟩
    | false => exact ⟨struct s made, given⟩

theorem untypedArray_names : BareNames naming moduleName suits .untypedArray := by
  intro required
  constructor
  · intro type declared
    obtain rfl := Except.ok.inj declared
    trivial
  · intro value depth e given converted
    obtain rfl := Except.ok.inj converted
    exact given

theorem array_names {element : FieldType} (items : ∀ depth, suits (itemName depth))
    (inner : BareNames naming moduleName suits element.unwrap.1) :
    BareNames naming moduleName suits (.array element) := by
  intro required
  have walked := inner (!element.unwrap.2 && !false)
  constructor
  · intro type declared
    rw [bareType_array] at declared
    obtain ⟨t, found, rfl⟩ := ok_of_map declared
    exact unlessRequired_names required (walked.1 t found)
  · intro value depth e given converted
    rw [bareConversion_array] at converted
    obtain ⟨t, declared, converted⟩ := ok_of_bind converted
    obtain ⟨body, walk, converted⟩ := ok_of_bind converted
    obtain rfl := Except.ok.inj converted
    have item := items depth
    exact ⟨given, walked.1 t declared, item, walked.2 _ _ body item walk⟩

theorem refused_names {t : FieldType}
    (undeclared : ∀ required type, bareType naming moduleName required t ≠ .ok type)
    (unconverted : ∀ required value depth e,
      bareConversion naming moduleName required value depth t ≠ .ok e) :
    BareNames naming moduleName suits t := by
  intro required
  constructor
  · intro type declared
    exact absurd declared (undeclared required type)
  · intro value depth e _ converted
    exact absurd converted (unconverted required value depth e)

theorem names_everywhere {t : FieldType} (items : ∀ depth, suits (itemName depth))
    (structs : t.Refers fun name => ∀ s, naming.structName moduleName name = .ok s → suits s) :
    BareNames naming moduleName suits t := by
  induction t using FieldType.bareInduction with
  | leaf kind => exact leaf_names kind
  | reserved name => exact reserved_names name
  | named name => exact named_names structs
  | untypedArray => exact untypedArray_names
  | array element inner =>
    have inside : element.Refers _ := structs
    exact array_names items (inner inside.unwrap)
  | nullable inner =>
    exact refused_names (fun _ _ made => nomatch made) (fun _ _ _ _ made => nomatch made)
  | missing =>
    exact refused_names (fun _ _ made => nomatch made) (fun _ _ _ _ made => nomatch made)
  | unknown kind tag =>
    exact refused_names (fun _ _ made => nomatch made) (fun _ _ _ _ made => nomatch made)

theorem declaredType_names {t : FieldType} {optional : Bool} {type : DeclaredType}
    (items : ∀ depth, suits (itemName depth))
    (structs : t.Refers fun name => ∀ s, naming.structName moduleName name = .ok s → suits s)
    (declared : declaredType naming moduleName t optional = .ok type) : type.Names suits :=
  (names_everywhere items structs.unwrap _).1 type declared

theorem conversion_names {t : FieldType} {optional : Bool} {value : Text} {depth : Int}
    {e : Conversion} (items : ∀ depth, suits (itemName depth))
    (structs : t.Refers fun name => ∀ s, naming.structName moduleName name = .ok s → suits s)
    (given : suits value)
    (converted : conversion naming moduleName t value depth optional = .ok e) : e.Names suits :=
  (names_everywhere items structs.unwrap _).2 value depth e given converted

/-- What a name hands on to every text that the program makes of it. -/
structure Inherited (suits : Text → Prop) : Prop where
  empty : suits []
  capitalized : ∀ t, suits t → suits (Name.capitalizeText t)
  accessor : ∀ t, suits t → suits (Name.accessorText t)
  escaped : ∀ t, suits t → suits (Text.escape t)
  qualified : ∀ m t, suits m → suits t → suits (Name.qualified m t)
  items : ∀ depth, suits (itemName depth)
  raw : suits rawValue

namespace Inherited

variable {style : OptionalStyle} (inherited : Inherited suits)
include inherited

theorem capitalize_ok {name : Json} {t : Text} (given : suits name.shown)
    (made : Name.capitalize name = .ok t) : suits t := by
  unfold Name.capitalize at made
  split at made
  · obtain rfl := Except.ok.inj made
    exact inherited.capitalized _ given
  split at made
  · split at made <;> cases made
  · obtain rfl := Except.ok.inj made
    exact inherited.empty

theorem structName_ok {name : Json} {t : Text} (module : suits moduleName)
    (given : suits name.shown) (made : (Naming.standard style).structName moduleName name = .ok t) :
    suits t := by
  obtain ⟨struct, capitalized, rfl⟩ := ok_of_map made
  exact inherited.qualified _ _ module
    (inherited.capitalize_ok given (ok_of_mapError capitalized))

theorem accessor_ok {name : Json} {t : Text} (given : suits name.shown)
    (made : (Naming.standard style).accessor name = .ok t) : suits t := by
  obtain ⟨v, named, rfl⟩ := ok_of_map made
  unfold Name.accessor at named
  split at named
  · obtain rfl := Except.ok.inj named
    exact inherited.accessor _ given
  split at named
  · obtain rfl := Except.ok.inj named
    exact given
  · cases named

theorem keyText_ok {name : Json} {key : Text} (given : suits name.shown)
    (made : keyText name = .ok key) : suits key := by
  unfold keyText at made
  split at made
  · obtain rfl := Except.ok.inj made
    exact inherited.escaped _ given
  · cases made

theorem accessorOf_ok {p : Property} {a : Accessor} (module : suits moduleName)
    (name : suits p.name.shown) (type : p.type.Refers fun name => suits name.shown)
    (made : accessorOf (.standard style) moduleName p = .ok a) :
    suits a.name ∧ a.type.Names suits ∧ a.conversion.Names suits ∧ suits a.key := by
  obtain ⟨named, typed, converted, keyed⟩ := accessorOf_parts made
  have structs : p.type.Refers fun name =>
      ∀ s, (Naming.standard style).structName moduleName name = .ok s → suits s :=
    type.imp fun _ given _ made => inherited.structName_ok module given made
  exact ⟨inherited.accessor_ok name named,
    declaredType_names inherited.items structs typed,
    conversion_names inherited.items structs inherited.raw converted,
    inherited.keyText_ok name keyed⟩

end Inherited

end Code
end StructBridge
