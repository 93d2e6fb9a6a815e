import StructBridge.Proofs.HeaderParts
import StructBridge.Proofs.MemberNames

/-!
Names that are capitalised before code is generated from them. A capitalised name is its own
capitalised form, and code shows the names of structs in that form alone, where they are declared
and where types refer to them. So a module with some of these names capitalised has the same code.
-/
namespace StructBridge
open Schema Code Command

namespace Name

theorem capitalizeText_settled (t : Text) :
    capitalizeText (capitalizeText t) = capitalizeText t := by
  cases t with
  | nil => rfl
  | cons c rest =>
    obtain ⟨u, others, made⟩ := List.exists_cons_of_ne_nil (Text.upper_ne_nil c)
    have settled : Text.upper u = [u] := Text.upper_settled (made ▸ List.mem_cons_self)
    rw [capitalizeText, made, List.cons_append, capitalizeText, settled]
    rfl

/-- A name as it is, or a text capitalised. -/
inductive Capped : Json → Json → Prop where
  | kept (name : Json) : Capped name name
  | capped (t : Text) : Capped (.str t) (.str (capitalizeText t))

variable {name name' : Json}

theorem Capped.capitalize (capped : Capped name name') :
    Name.capitalize name' = Name.capitalize name := by
  cases capped with
  | kept => rfl
  | capped t => exact congrArg Except.ok (capitalizeText_settled t)

theorem Capped.truthy (capped : Capped name name') : name'.truthy = name.truthy := by
  cases capped with
  | kept => rfl
  | capped t =>
    cases t with
    | nil => rfl
    | cons c rest =>
      obtain ⟨u, others, made⟩ := List.exists_cons_of_ne_nil (Text.upper_ne_nil c)
      rw [capitalizeText, made]
      rfl

end Name

namespace Schema

/-- A type with some of the names in it capitalised. -/
inductive FieldType.Capped : FieldType → FieldType → Prop where
  | kept (t : FieldType) : Capped t t
  | named {name name' : Json} (inside : Name.Capped name name') :
      Capped (.named name) (.named name')
  | nullable {t t' : FieldType} (inside : Capped t t') : Capped (.nullable t) (.nullable t')
  | array {t t' : FieldType} (inside : Capped t t') : Capped (.array t) (.array t')

structure Property.Capped (p p' : Property) : Prop where
  name : p'.name = p.name
  type : p.type.Capped p'.type
  optional : p'.optional = p.optional

/-- A regular struct with its name capitalised, or some names in its types. -/
structure Struct.Capped (s s' : Struct) : Prop where
  regular : s.kind = .regular
  kind : s'.kind = .regular
  name : Name.Capped s.name s'.name
  properties : List.Forall₂ Property.Capped s.properties s'.properties

structure Module.Capped (m m' : Module) : Prop where
  name : m'.name = m.name
  structs : List.Forall₂ Struct.Capped m.structs m'.structs

theorem FieldType.Capped.unwrap {t t' : FieldType} (capped : t.Capped t') :
    t.unwrap.1.Capped t'.unwrap.1 ∧ t'.unwrap.2 = t.unwrap.2 := by
  cases capped with
  | kept => exact ⟨.kept _, rfl⟩
  | named inside => exact ⟨.named inside, rfl⟩
  | nullable inside => exact ⟨inside, rfl⟩
  | array inside => exact ⟨.array inside, rfl⟩

end Schema

section Lists

variable {α β : Type} {related : α → α → Prop} {xs ys : List α}

theorem mapM_of_forall₂ {ε : Type} {f f' : α → Except ε β} (paired : List.Forall₂ related xs ys)
    (same : ∀ x y, related x y → f' y = f x) : ys.mapM f' = xs.mapM f := by
  induction paired with
  | nil => rfl
  | cons here _ ih => rw [List.mapM_cons, List.mapM_cons, same _ _ here, ih]

theorem takeWhile_of_forall₂ {holds : α → Bool} (paired : List.Forall₂ related xs ys)
    (same : ∀ x y, related x y → holds y = holds x) :
    List.Forall₂ related (xs.takeWhile holds) (ys.takeWhile holds) := by
  induction paired with
  | nil => exact .nil
  | cons here _ ih =>
    rw [List.takeWhile_cons, List.takeWhile_cons, same _ _ here]
    split
    · exact .cons here ih
    · exact .nil

end Lists

section Code

variable {style : OptionalStyle} {moduleName : Text}

theorem structName_capped {name name' : Json} (capped : Name.Capped name name') :
    (Naming.standard style).structName moduleName name' =
      (Naming.standard style).structName moduleName name :=
  congrArg (fun r => (ofUse r).map (Name.qualified moduleName)) capped.capitalize

/-- The walks over a type that has lost its wrapper end alike for a capped one. -/
theorem bare_capped {t t' : FieldType} (capped : t.Capped t') :
    (∀ required, bareType (.standard style) moduleName required t' =
      bareType (.standard style) moduleName required t) ∧
    ∀ required value depth, bareConversion (.standard style) moduleName required value depth t' =
      bareConversion (.standard style) moduleName required value depth t := by
  induction t using FieldType.bareInduction generalizing t' with
  | array element inner =>
    cases capped with
    | kept => exact ⟨fun _ => rfl, fun _ _ _ => rfl⟩
    | @array _ element' inside =>
      obtain ⟨bare, wrapped⟩ := inside.unwrap
      obtain ⟨types, conversions⟩ := inner bare
      constructor
      · intro required
        rw [bareType_array, bareType_array, declaredType, declaredType, wrapped, types]
      · intro required value depth
        simp only [bareConversion_array, declaredType, conversion, wrapped, types, conversions]
  | named name =>
    cases capped with
    | kept => exact ⟨fun _ => rfl, fun _ _ _ => rfl⟩
    | named inside =>
      constructor
      · intro required
        rw [bareType, bareType, structName_capped inside]
      · intro required value depth
        rw [bareConversion, bareConversion, structName_capped inside]
  | nullable inner =>
    -- A wrapper inside of a wrapper is refused whatever it holds.
    cases capped <;> exact ⟨fun _ => rfl, fun _ _ _ => rfl⟩
  | leaf kind | reserved name | untypedArray | missing | unknown kind tag =>
    cases capped
    exact ⟨fun _ => rfl, fun _ _ _ => rfl⟩

theorem declaredType_capped {t t' : FieldType} (capped : t.Capped t') (optional : Bool) :
    declaredType (.standard style) moduleName t' optional =
      declaredType (.standard style) moduleName t optional := by
  obtain ⟨bare, wrapped⟩ := capped.unwrap
  rw [declaredType, declaredType, wrapped, (bare_capped bare).1]

theorem conversion_capped {t t' : FieldType} (capped : t.Capped t') (value : Text) (depth : Int)
    (optional : Bool) :
    conversion (.standard style) moduleName t' value depth optional =
      conversion (.standard style) moduleName t value depth optional := by
  obtain ⟨bare, wrapped⟩ := capped.unwrap
  rw [conversion, conversion, wrapped, (bare_capped bare).2]

theorem accessorOf_capped {p p' : Property} (capped : p.Capped p') :
    accessorOf (.standard style) moduleName p' = accessorOf (.standard style) moduleName p := by
  rw [accessorOf, accessorOf, capped.name, capped.optional, declaredType_capped capped.type,
    conversion_capped capped.type]

theorem reachesStyle_capped {p p' : Property} (capped : p.Capped p') :
    Generator.reachesStyle (.standard style) moduleName p' =
      Generator.reachesStyle (.standard style) moduleName p := by
  rw [Generator.reachesStyle, Generator.reachesStyle, capped.name, capped.optional,
    declaredType_capped capped.type]

theorem ofRegular_capped {s s' : Struct} (capped : s.Capped s') :
    StructCode.ofRegular (.standard style) moduleName s' =
      StructCode.ofRegular (.standard style) moduleName s := by
  have called : (Naming.standard style).capitalize s'.name =
      (Naming.standard style).capitalize s.name := capped.name.capitalize
  have accessors : accessorsOf (.standard style) moduleName s'.properties =
      accessorsOf (.standard style) moduleName s.properties :=
    mapM_of_forall₂ capped.properties fun _ _ => accessorOf_capped
  rw [StructCode.ofRegular, StructCode.ofRegular, capped.regular, capped.kind]
  simp only [StructCode.of, called, accessors]

theorem unstyledCode_capped {s s' : Struct} (capped : s.Capped s') (reason : Misuse) :
    Generator.unstyledCode reason moduleName s' = Generator.unstyledCode reason moduleName s := by
  let before (s : Struct) : List Property := s.properties.takeWhile fun p =>
    !Generator.reachesStyle (.standard .folly) moduleName p
  -- Whether a property comes to its style does not depend on capitals, so both stop at one place.
  have begun : List.Forall₂ Property.Capped (before s) (before s') := by
    apply takeWhile_of_forall₂ capped.properties
    intro p p' capped
    rw [reachesStyle_capped capped]
  have coded : StructCode.ofRegular (.standard .folly) moduleName
      { s' with properties := before s' } = StructCode.ofRegular (.standard .folly) moduleName
      { s with properties := before s } :=
    ofRegular_capped ⟨capped.regular, capped.kind, capped.name, begun⟩
  unfold Generator.unstyledCode
  dsimp only [before] at coded begun ⊢
  rw [coded, begun.length_eq, capped.properties.length_eq]

/-- The definitions of a struct are qualified as types refer to it. -/
theorem methods_qualified {s : Struct} {code : StructCode} {n : Text}
    (called : Name.capitalize s.name = .ok (Name.capitalizeText n))
    (made : StructCode.ofRegular (.standard style) moduleName s = .ok code) :
    ∃ accessors, accessorsOf (.standard style) moduleName s.properties = .ok accessors ∧
      code.methods = List.intercalate "\n" (accessors.map fun a =>
        unlines (signatureLine style (Name.qualified moduleName (Name.capitalizeText n)) a ::
          bodyLines style a) ++ definitionEnd) := by
  obtain ⟨name, accessors, capitalized, coded, _, methods⟩ := ofRegular_ok made
  obtain rfl := Except.ok.inj (capitalized.symm.trans called)
  refine ⟨accessors, coded, ?_⟩
  simp only [methods, definition_eq]

end Code

section Generators

variable {g : Generator}

/-- Settings that choose all structs in their order. -/
structure Config.ChoosesAll (config : Config) : Prop where
  ignoring : config.ignoreStructs = some (.arr [])
  ordering : config.orderStructs = some (.arr [])

theorem selectStructs_all {config : Config} (all : config.ChoosesAll) (structs : List Struct) :
    selectStructs config structs = (requireKeys (structs.map (·.name))).map fun _ => structs := by
  have everything (structs : List Struct) :
      dropMentioned (.ok (.arr [])) structs = .ok structs := by
    have list := dropMentioned_list [] structs
    simpa [unnamed] using list
  unfold selectStructs
  simp only [all.ignoring, all.ordering, Config.require, everything, ok_bind]
  cases requireKeys (structs.map (·.name)) with
  | error use => rfl
  | ok _ => rfl

theorem requireKeys_capped {names names' : List Json}
    (capped : List.Forall₂ Name.Capped names names') : requireKeys names' = requireKeys names := by
  have found : names'.find? (!·.isKey) = names.find? (!·.isKey) := by
    induction capped with
    | nil => rfl
    | cons here _ ih =>
      cases here with
      | kept => rw [List.find?_cons, List.find?_cons, ih]
      | capped t => simp only [List.find?_cons, Json.isKey_str, Bool.not_true, ih]
  rw [requireKeys, requireKeys, found]

theorem structCode_capped {s s' : Struct} (capped : s.Capped s') {m' : Schema.Module}
    (same : m'.name = g.module.name) :
    Generator.structCode { g with module := m' } s' = g.structCode s := by
  unfold Generator.structCode
  rw [same]
  cases g.style.resolve with
  | ok style => exact ofRegular_capped capped
  | error reason => exact unstyledCode_capped capped reason

theorem structCodes_capped {m' : Schema.Module} (all : g.config.ChoosesAll)
    (capped : g.module.Capped m') :
    Generator.structCodes { g with module := m' } = g.structCodes := by
  have names : List.Forall₂ Name.Capped (g.module.structs.map (·.name)) (m'.structs.map (·.name)) :=
    List.forall₂_map_left_iff.mpr
      (List.forall₂_map_right_iff.mpr (capped.structs.imp fun _ _ here => here.name))
  have coded : m'.structs.mapM (Generator.structCode { g with module := m' }) =
      g.module.structs.mapM g.structCode := by
    apply mapM_of_forall₂ capped.structs
    exact fun s s' here => structCode_capped here capped.name
  rw [Generator.structCodes_eq, Generator.structCodes_eq, Generator.selected, Generator.selected,
    selectStructs_all all, selectStructs_all all, requireKeys_capped names]
  cases requireKeys (g.module.structs.map (·.name)) with
  | error use => rfl
  | ok _ => exact coded

/-- A module with some names capitalised has the header or the fault of the module itself. -/
theorem header_capped {m' : Schema.Module} (all : g.config.ChoosesAll) (capped : g.module.Capped m')
    (invocation : Option Invocation) :
    Generator.header { g with module := m' } invocation = g.header invocation := by
  unfold Generator.header
  rw [structCodes_capped all capped]
  rfl

end Generators
end StructBridge
