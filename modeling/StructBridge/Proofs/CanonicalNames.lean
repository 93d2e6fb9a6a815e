import StructBridge.Proofs.CapitalNames
import StructBridge.Proofs.FieldUpdate
import StructBridge.Proofs.Reading
import StructBridge.Proofs.TypeGrammar

/-!
Models with some names of structs and of the structs that types refer to capitalised, however deep
the types lie. Such a model is read when the model itself is, and differs from it in these names
alone, so that it has the same header or the same fault.
-/
namespace StructBridge
open Schema Code Command

namespace Json

/-- A value as it is, or with a related one for what it has under a key. -/
inductive Recast (key : Text) (related : Json → Json → Prop) : Json → Json → Prop where
  | kept (v : Json) : Recast key related v v
  | changed {v w w' : Json} (found : v.field? key = some w) (inside : related w w') :
      Recast key related v (v.withField key w')

/-- Lists with related items. -/
inductive Itemwise (related : Json → Json → Prop) : Json → Json → Prop where
  | items {vs vs' : List Json} (each : List.Forall₂ related vs vs') :
      Itemwise related (.arr vs) (.arr vs')

namespace Recast

variable {key k : Text} {related : Json → Json → Prop} {v v' : Json}

theorem isObject (recast : Recast key related v v') : v'.isObject = v.isObject := by
  cases recast with
  | kept => rfl
  | changed found inside => exact isObject_withField _ v key

theorem fieldD_ne (recast : Recast key related v v') (apart : k ≠ key) (missing : Json) :
    v'.fieldD k missing = v.fieldD k missing := by
  cases recast with
  | kept => rfl
  | changed found inside => exact fieldD_withField_ne _ apart missing

theorem fieldD (recast : Recast key related v v') (refl : ∀ w, related w w) (missing : Json) :
    related (v.fieldD key missing) (v'.fieldD key missing) := by
  cases recast with
  | kept => exact refl _
  | changed found inside =>
    rw [fieldD_withField _ (isObject_of_field found), Json.fieldD, found]
    exact inside

theorem items (recast : Recast key (Itemwise related) v v') (refl : ∀ w, related w w)
    {items : List Json} (listed : v.fieldD key (.arr []) = .arr items) :
    ∃ items', v'.fieldD key (.arr []) = .arr items' ∧ List.Forall₂ related items items' := by
  cases recast with
  | kept => exact ⟨items, listed, List.forall₂_same.mpr fun w _ => refl w⟩
  | changed found inside =>
    rw [Json.fieldD, found] at listed
    obtain rfl : _ = Json.arr items := listed
    obtain ⟨each⟩ := inside
    exact ⟨_, fieldD_withField _ (isObject_of_field found) _, each⟩

end Recast
end Json

namespace Schema

/-- A value for a type with some of the names in it capitalised. -/
inductive CapsType : Json → Json → Prop where
  | kept (v : Json) : CapsType v v
  | named {v name name' : Json} (tagged : Tagged v namedTag) (found : v.field? "name" = some name)
      (inside : Name.Capped name name') : CapsType v (v.withField "name" name')
  | nullable {v w w' : Json} (tagged : Tagged v nullableTag)
      (found : v.field? "typeAnnotation" = some w) (inside : CapsType w w') :
      CapsType v (v.withField "typeAnnotation" w')
  | array {v w w' : Json} (tagged : Tagged v arrayTag) (found : v.field? "elementType" = some w)
      (inside : CapsType w w') : CapsType v (v.withField "elementType" w')

def CapsProperty : Json → Json → Prop := Json.Recast "typeAnnotation" CapsType

def CapsStruct (v v' : Json) : Prop :=
  ∃ u, Json.Recast "name" Name.Capped v u ∧
    Json.Recast "properties" (Json.Itemwise CapsProperty) u v'

/-- A model with some names of structs and some names in their types capitalised. -/
def CapsModel : Json → Json → Prop := Json.Recast "structs" (Json.Itemwise CapsStruct)

theorem CapsProperty.refl (v : Json) : CapsProperty v v := .kept v

theorem CapsStruct.refl (v : Json) : CapsStruct v v := ⟨v, .kept v, .kept v⟩

section Types

variable {v v' w : Json} {t : FieldType}

theorem denotes_nullable (tagged : Tagged v nullableTag)
    (found : v.field? FieldType.nullableKey = some w) (denoted : Denotes v t) :
    ∃ inner, t = .nullable inner ∧ Denotes w inner := by
  have read := FieldType.ofJson_of_denotes denoted
  by_cases null : w = .null
  · have absent : v.given? FieldType.nullableKey = none :=
      given_eq_none_iff.mpr (.inr (null ▸ found))
    obtain ⟨noLeaf, unreserved⟩ := FieldType.nullableTag_apart
    rw [FieldType.ofJson_tagged tagged noLeaf, if_neg unreserved, if_pos rfl, absent] at read
    cases read
  · rw [FieldType.ofJson_nullable tagged (given_eq_some_iff.mpr ⟨found, null⟩)] at read
    obtain ⟨inner, inside, rfl⟩ := ok_of_map read
    exact ⟨inner, rfl, FieldType.ofJson_ok_iff.mp (ok_of_mapError inside)⟩

theorem denotes_array (tagged : Tagged v arrayTag) (found : v.field? FieldType.elementKey = some w)
    (denoted : Denotes v t) :
    w = .null ∧ t = .untypedArray ∨ ∃ element, t = .array element ∧ Denotes w element := by
  have read := FieldType.ofJson_of_denotes denoted
  by_cases null : w = .null
  · have absent : v.given? FieldType.elementKey = none :=
      given_eq_none_iff.mpr (.inr (null ▸ found))
    rw [FieldType.ofJson_untypedArray tagged absent] at read
    exact .inl ⟨null, (Except.ok.inj read).symm⟩
  · rw [FieldType.ofJson_array tagged (given_eq_some_iff.mpr ⟨found, null⟩)] at read
    obtain ⟨element, inside, rfl⟩ := ok_of_map read
    exact .inr ⟨element, rfl, FieldType.ofJson_ok_iff.mp (ok_of_mapError inside)⟩

theorem denotes_named (tagged : Tagged v namedTag) (found : v.field? "name" = some w)
    (denoted : Denotes v t) : t = .named w ∧ w.truthy = true := by
  have read := FieldType.ofJson_of_denotes denoted
  have name : v.fieldD "name" .null = w := by rw [Json.fieldD, found, Option.getD_some]
  obtain ⟨noLeaf, unreserved, notNullable, notArray⟩ := FieldType.namedTag_apart
  rw [FieldType.ofJson_tagged tagged noLeaf, if_neg unreserved, if_neg notNullable,
    if_neg notArray, if_pos rfl, name] at read
  split at read
  · rename_i present
    exact ⟨(Except.ok.inj read).symm, present⟩
  · cases read

theorem tagged_withField {tag key : Text} (apart : Text.ofString "type" ≠ key)
    (tagged : Tagged v tag) (w : Json) : Tagged (v.withField key w) tag :=
  (Json.field_withField_ne w apart).trans tagged

theorem capsType_null (caps : CapsType .null w) : w = .null := by
  cases caps with
  | kept => rfl
  | named tagged => cases tagged
  | nullable tagged => cases tagged
  | array tagged => cases tagged

/-- From a capitalised value the type is read with the same names capitalised. -/
theorem CapsType.denotes (caps : CapsType v v') (denoted : Denotes v t) :
    ∃ t', Denotes v' t' ∧ t.Capped t' := by
  have apart : ∀ key ∈ [Text.ofString "name", .ofString "typeAnnotation", .ofString "elementType"],
      Text.ofString "type" ≠ key := by decide
  simp only [List.forall_mem_cons] at apart
  obtain ⟨name, nullable, element, _⟩ := apart
  induction caps generalizing t with
  | kept => exact ⟨t, denoted, .kept t⟩
  | named tagged found inside =>
    obtain ⟨rfl, present⟩ := denotes_named tagged found denoted
    exact ⟨_, .named (tagged_withField name tagged _)
      (Json.field_withField _ (Json.isObject_of_field found)) (inside.truthy.trans present),
      .named inside⟩
  | nullable tagged found inside ih =>
    obtain ⟨inner, rfl, within⟩ := denotes_nullable tagged found denoted
    obtain ⟨inner', denoted', capped⟩ := ih within
    exact ⟨_, .nullable (tagged_withField nullable tagged _)
      (Json.field_withField _ (Json.isObject_of_field found)) denoted', .nullable capped⟩
  | @array v _ _ tagged found inside ih =>
    have tagged' := tagged_withField element tagged
    have found' (w : Json) : (v.withField FieldType.elementKey w).field? FieldType.elementKey =
        some w := Json.field_withField w (Json.isObject_of_field found)
    -- A null in the place of the elements' type makes an array of anything.
    rcases denotes_array tagged found denoted with ⟨rfl, rfl⟩ | ⟨inner, rfl, within⟩
    · obtain rfl := capsType_null inside
      exact ⟨_, .untypedArray (tagged' _) (.inr (found' _)), .kept _⟩
    · obtain ⟨inner', denoted', capped⟩ := ih within
      exact ⟨_, .array (tagged' _) (found' _) denoted', .array capped⟩

end Types

section Models

variable {v v' : Json}

theorem CapsProperty.read {p : Property} (caps : CapsProperty v v')
    (read : Property.ofJson v = .ok p) : ∃ p', Property.ofJson v' = .ok p' ∧ p.Capped p' := by
  have apart : ∀ key ∈ [Text.ofString "name", .ofString "optional"],
      key ≠ Text.ofString "typeAnnotation" := by decide
  simp only [List.forall_mem_cons] at apart
  obtain ⟨name, optional, _⟩ := apart
  obtain ⟨object, called, present, flag, type, given, typed⟩ := Property.ofJson_ok_iff.mp read
  cases caps with
  | kept => exact ⟨p, read, rfl, .kept _, rfl⟩
  | changed found inside =>
    obtain rfl := Option.some.inj (given.symm.trans found)
    obtain ⟨t', denoted, capped⟩ := inside.denotes (FieldType.ofJson_ok_iff.mp typed)
    refine ⟨⟨p.name, t', p.optional⟩, Property.ofJson_ok_iff.mpr ?_, rfl, capped, rfl⟩
    exact ⟨(Json.isObject_withField _ v _).trans object,
      called.trans (Json.fieldD_withField_ne _ name _).symm, present,
      (Json.fieldD_withField_ne _ optional _).trans flag, _, Json.field_withField _ object,
      FieldType.ofJson_of_denotes denoted⟩

/-- Related items are read one by one. -/
theorem read_items {α : Type} (read : Json → Read α) {related : Json → Json → Prop}
    {capped : α → α → Prop} {items items' : List Json} {xs : List α}
    (each : ∀ v v' x, related v v' → read v = .ok x → ∃ x', read v' = .ok x' ∧ capped x x')
    (pairs : List.Forall₂ related items items')
    (reads : List.Forall₂ (fun v x => read v = .ok x) items xs) :
    ∃ xs', List.Forall₂ (fun v x => read v = .ok x) items' xs' ∧ List.Forall₂ capped xs xs' := by
  induction pairs generalizing xs with
  | nil =>
    cases reads
    exact ⟨[], .nil, .nil⟩
  | cons here _ ih =>
    cases reads with
    | cons first rest =>
      obtain ⟨x', first', capped⟩ := each _ _ _ here first
      obtain ⟨xs', rest', others⟩ := ih rest
      exact ⟨x' :: xs', .cons first' rest', .cons capped others⟩

theorem checkAccessors_capped {properties properties' : List Property} (taken : Accessors) (i : Nat)
    (capped : List.Forall₂ Property.Capped properties properties') :
    checkAccessors taken i properties' = checkAccessors taken i properties := by
  induction capped generalizing taken i with
  | nil => rfl
  | cons here _ ih => simp only [checkAccessors, here.name, ih]

theorem CapsStruct.read {s : Struct} (caps : CapsStruct v v') (read : Struct.ofJson v = .ok s) :
    ∃ s', Struct.ofJson v' = .ok s' ∧ s.Capped s' := by
  have apart : Text.ofString "properties" ≠ Text.ofString "name" := by decide
  obtain ⟨object, regular, called, present, checked, items, listed, each⟩ :=
    Struct.ofJson_ok_iff.mp read
  -- The name changes first and the properties after it; neither change shows under the other key.
  obtain ⟨u, renamed, changed⟩ := caps
  have name : Name.Capped s.name (v'.fieldD "name" .null) := by
    rw [changed.fieldD_ne apart.symm, called]
    exact renamed.fieldD Name.Capped.kept .null
  obtain ⟨items', listed', pairs⟩ :=
    changed.items CapsProperty.refl ((renamed.fieldD_ne apart _).trans listed)
  obtain ⟨properties', each', capped⟩ :=
    read_items Property.ofJson (fun _ _ _ => CapsProperty.read) pairs each
  refine ⟨⟨.regular, v'.fieldD "name" .null, properties'⟩, Struct.ofJson_ok_iff.mpr ?_,
    regular, rfl, name, capped⟩
  exact ⟨changed.isObject.trans (renamed.isObject.trans object), rfl, rfl,
    name.truthy.trans present, (checkAccessors_capped [] 0 capped).trans checked, items', listed',
    each'⟩

theorem CapsModel.read {nameGiven : Json} {m : Module} (caps : CapsModel v v')
    (read : Module.ofJson v nameGiven = .ok m) :
    ∃ m', Module.ofJson v' nameGiven = .ok m' ∧ m.Capped m' := by
  have apart : Text.ofString "moduleName" ≠ Text.ofString "structs" := by decide
  obtain ⟨object, called, present, items, listed, each⟩ := Module.ofJson_ok_iff.mp read
  obtain ⟨items', listed', pairs⟩ := Json.Recast.items caps CapsStruct.refl listed
  obtain ⟨structs', each', capped⟩ :=
    read_items Struct.ofJson (fun _ _ _ => CapsStruct.read) pairs each
  refine ⟨⟨m.name, structs'⟩, Module.ofJson_ok_iff.mpr ?_, rfl, capped⟩
  rw [Json.Recast.fieldD_ne caps apart, Json.Recast.isObject caps]
  exact ⟨object, called, present, items', listed', each'⟩

end Models
end Schema

/-- Capitalising is done once for all, and no header shows whether a model did it already. A
required type that refers to a struct is declared by the name that qualifies the definitions of each
struct that is so called. -/
theorem capital_names_are_canonical {model model' nameGiven : Json} {config : Config}
    {g : Generator} (caps : CapsModel model model') (all : config.ChoosesAll)
    (made : Generator.make (.model model) nameGiven config = .ok g) :
    (∀ t, Name.capitalizeText (Name.capitalizeText t) = Name.capitalizeText t) ∧
    (∃ g', Generator.make (.model model') nameGiven config = .ok g' ∧
      ∀ invocation, g'.header invocation = g.header invocation) ∧
    ∀ style moduleName n, ∃ type,
      declaredType (.standard style) moduleName (.named (.str n)) false = .ok type ∧
      ∀ s code, Name.capitalize s.name = .ok (Name.capitalizeText n) →
        StructCode.ofRegular (.standard style) moduleName s = .ok code →
        ∃ accessors, accessorsOf (.standard style) moduleName s.properties = .ok accessors ∧
          code.methods = List.intercalate "\n" (accessors.map fun a =>
            unlines (signatureLine style (type.text style) a :: bodyLines style a) ++
              definitionEnd) := by
  refine ⟨Name.capitalizeText_settled, ?_, ?_⟩
  · obtain ⟨m, resolved, rfl⟩ := Generator.make_ok_iff.mp made
    obtain ⟨m', read', capped⟩ := caps.read (startingAt_ok_iff.mp resolved)
    have resolved' : (Source.model model').resolve nameGiven = .ok m' :=
      startingAt_ok_iff.mpr read'
    have alike := header_capped (g := ⟨m, config.optionalStyle, config⟩) all capped
    exact ⟨_, Generator.make_ok_iff.mpr ⟨m', resolved', rfl⟩, alike⟩
  · intro style moduleName n
    refine ⟨.struct (Name.qualified moduleName (Name.capitalizeText n)), rfl, ?_⟩
    intro s code called made
    exact methods_qualified called made

def spanType (name : Text) : Json :=
  .obj [("type", .str "TypeAliasTypeAnnotation"), ("name", .str name)]

def nullableSpanType (name : Text) : Json :=
  .obj [("type", .str "NullableTypeAnnotation"), ("typeAnnotation", spanType name)]

def spansType (name : Text) : Json :=
  .obj [("type", .str "ArrayTypeAnnotation"), ("elementType", nullableSpanType name)]

def spansProperty (name : Text) : Json :=
  .obj [("name", .str "parts"), ("typeAnnotation", spansType name)]

def spanStruct (struct name : Text) : Json :=
  .obj [("name", .str struct), ("properties", .arr [spansProperty name])]

/-- A struct with a list of structs of a name, each of which may be null. -/
def spanModel (struct name : Text) : Json :=
  .obj [("moduleName", .str "Maps"), ("structs", .arr [spanStruct struct name])]

theorem spanModel_caps (struct name : Text) : CapsModel (spanModel struct name)
    (spanModel (Name.capitalizeText struct) (Name.capitalizeText name)) := by
  have span : CapsType (spanType name) (spanType (Name.capitalizeText name)) :=
    .named (by with_unfolding_all rfl) (by with_unfolding_all rfl) (.capped name)
  have nullable : CapsType (nullableSpanType name) (nullableSpanType (Name.capitalizeText name)) :=
    .nullable (by with_unfolding_all rfl) (by with_unfolding_all rfl) span
  have spans : CapsType (spansType name) (spansType (Name.capitalizeText name)) :=
    .array (by with_unfolding_all rfl) (by with_unfolding_all rfl) nullable
  have property : CapsProperty (spansProperty name) (spansProperty (Name.capitalizeText name)) :=
    .changed (by with_unfolding_all rfl) spans
  have caps : CapsStruct (spanStruct struct name)
      (spanStruct (Name.capitalizeText struct) (Name.capitalizeText name)) :=
    ⟨spanStruct (Name.capitalizeText struct) name,
      .changed (by with_unfolding_all rfl) (.capped struct),
      .changed (by with_unfolding_all rfl) (.items (.cons property .nil))⟩
  exact .changed (by with_unfolding_all rfl) (.items (.cons caps .nil))

theorem spans_alike : ∃ g g',
    Generator.make (.model (spanModel "ßpan" "ßpan")) .null .standard = .ok g ∧
      Generator.make (.model (spanModel "SSpan" "SSpan")) .null .standard = .ok g' ∧
      g'.header none = g.header none := by
  have capital : Name.capitalizeText "ßpan" = "SSpan" := by decide
  have caps : CapsModel (spanModel "ßpan" "ßpan") (spanModel "SSpan" "SSpan") :=
    capital ▸ spanModel_caps "ßpan" "ßpan"
  have all : Config.standard.ChoosesAll := ⟨rfl, rfl⟩
  obtain ⟨g, made⟩ :
      ∃ g, Generator.make (.model (spanModel "ßpan" "ßpan")) .null .standard = .ok g :=
    ⟨_, by with_unfolding_all rfl⟩
  obtain ⟨_, ⟨g', made', same⟩, _⟩ := capital_names_are_canonical caps all made
  exact ⟨g, g', made, made', same none⟩

end StructBridge
