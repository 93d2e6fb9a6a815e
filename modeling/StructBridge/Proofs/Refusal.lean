import StructBridge.Proofs.ConversionTyping
import StructBridge.Proofs.HeaderParts
import StructBridge.Proofs.Reading

/-!
A header comes out whole or not at all. It exists exactly when every property of every selected
struct has a type that the bridge knows; otherwise the first property that has none is to blame, and
the fault is always that of the declared type.
-/
namespace StructBridge
open Schema Code Command

/-- The types that the bridge knows, under one nullable wrapper at most. -/
inductive Mappable : FieldType → Prop where
  | leaf (kind : Leaf) : Mappable (.leaf kind)
  | rootTag : Mappable (.reserved (.str "RootTag"))
  | named (name : Json) : Mappable (.named name)
  | untypedArray : Mappable .untypedArray
  | array {element : FieldType} (known : Mappable element) : Mappable (.array element)
  | nullable {inner : FieldType} (single : inner.unwrap.2 = false) (known : Mappable inner) :
      Mappable (.nullable inner)

/-- The tag of the outermost part of a type that the bridge does not know. -/
def offence? : FieldType → Option Json
  | .reserved name => if name.text? = some rootTag then none else some name
  | .array element => offence? element
  | .nullable inner => if inner.unwrap.2 then some (.str nullableTag) else offence? inner
  | .missing => some (.str "NoneType")
  | .unknown kind tag => some (if tag.truthy then tag else .str kind)
  | _ => none

theorem offence_eq_none_iff (t : FieldType) : offence? t = none ↔ Mappable t := by
  induction t with
  | leaf kind => exact ⟨fun _ => .leaf kind, fun _ => rfl⟩
  | reserved name =>
    constructor
    · intro clean
      cases name with
      | str t =>
        have same : t = rootTag := by simpa [offence?, Json.text?] using clean
        subst same
        exact .rootTag
      | _ => simp [offence?, Json.text?] at clean
    · intro known
      cases known
      rfl
  | named name => exact ⟨fun _ => .named name, fun _ => rfl⟩
  | untypedArray => exact ⟨fun _ => .untypedArray, fun _ => rfl⟩
  | array element ih =>
    constructor
    · intro clean
      exact .array (ih.mp clean)
    · intro known
      cases known with
      | array known => exact ih.mpr known
  | nullable inner ih =>
    constructor
    · intro clean
      cases wrapped : inner.unwrap.2 with
      | true => simp [offence?, wrapped] at clean
      | false => exact .nullable wrapped (ih.mp (by simpa [offence?, wrapped] using clean))
    · intro known
      cases known with
      | nullable single known => simpa [offence?, single] using ih.mpr known
  | missing => exact ⟨fun clean => by simp [offence?] at clean, fun known => nomatch known⟩
  | unknown kind tag => exact ⟨fun clean => by simp [offence?] at clean, fun known => nomatch known⟩

def Named (name : Json) : Prop := ∃ t, name = .str t

def TypeNamed : FieldType → Prop
  | .reserved name => Named name
  | .named name => Named name
  | .array element => TypeNamed element
  | .nullable inner => TypeNamed inner
  | _ => True

structure StructNamed (s : Struct) : Prop where
  name : Named s.name
  properties : ∀ p ∈ s.properties, Named p.name ∧ TypeNamed p.type

theorem TypeNamed.unwrap {t : FieldType} (texts : TypeNamed t) : TypeNamed t.unwrap.1 := by
  cases t <;> exact texts

/-- The offence of a type that has lost its wrapper, where another one counts. -/
def bareOffence? (t : FieldType) : Option Json :=
  if t.unwrap.2 then some (.str nullableTag) else offence? t

theorem bareOffence_unwrap (t : FieldType) : bareOffence? t.unwrap.1 = offence? t := by
  cases t <;> rfl

def typeFault (offence : Option Json) : Option Fault := offence.map .unmappableType

/-- A naming that has a struct for every text. -/
def Code.Naming.NamesTexts (naming : Naming) : Prop :=
  ∀ t, ∃ struct, naming.capitalize (.str t) = .ok struct

theorem standard_namesTexts (style : OptionalStyle) : (Naming.standard style).NamesTexts :=
  fun t => ⟨Name.capitalizeText t, rfl⟩

variable {naming : Naming} {style : OptionalStyle} {moduleName : Text}

/-- The walk over a type stops at its offence, below a wrapper as well. -/
theorem bareType_stopped (total : naming.NamesTexts) {t : FieldType} (texts : TypeNamed t)
    (required : Bool) :
    StoppedBy (typeFault (bareOffence? t)) (bareType naming moduleName required t) := by
  induction t using FieldType.bareInduction generalizing required with
  | leaf kind => cases kind <;> exact ⟨_, rfl⟩
  | reserved name =>
    obtain ⟨t, rfl⟩ := texts
    by_cases root : t = rootTag
    · subst root
      exact ⟨_, rfl⟩
    · simp only [bareType, isRootTag, Json.isKey, Json.text?, bareOffence?, FieldType.unwrap, offence?]
      simp [root, typeFault, StoppedBy]
  | named name =>
    obtain ⟨t, rfl⟩ := texts
    obtain ⟨struct, capitalized⟩ := total t
    refine ⟨(DeclaredType.struct (naming.qualify moduleName struct)).unlessRequired required, ?_⟩
    rw [bareType, Naming.structName, capitalized]
    rfl
  | untypedArray => exact ⟨_, rfl⟩
  | array element inner =>
    have inside : TypeNamed element := texts
    rw [bareType_array]
    have stopped := inner inside.unwrap (!element.unwrap.2 && !false)
    rw [bareOffence_unwrap] at stopped
    exact stopped.map _
  | nullable inner => rfl
  | missing => rfl
  | unknown kind tag => rfl

theorem declaredType_stopped (total : naming.NamesTexts) {t : FieldType} (texts : TypeNamed t)
    (optional : Bool) :
    StoppedBy (typeFault (offence? t)) (declaredType naming moduleName t optional) := by
  rw [← bareOffence_unwrap]
  exact bareType_stopped total texts.unwrap _

theorem accessorOf_stopped (p : Property) (name : Named p.name) (texts : TypeNamed p.type) :
    StoppedBy (typeFault (offence? p.type)) (accessorOf (.standard style) moduleName p) := by
  obtain ⟨t, named⟩ := name
  have typed : StoppedBy (typeFault (offence? p.type))
      (declaredType (.standard style) moduleName p.type p.optional) :=
    declaredType_stopped (standard_namesTexts style) texts p.optional
  unfold accessorOf
  rw [named]
  apply typed.bind
  intro type declared
  have converted := declared_agrees (.standard style) moduleName p.type p.optional 0
    (x := rawValue) (by decide)
  rw [declared] at converted
  obtain ⟨e, converted, _⟩ := converted
  rw [converted]
  exact ⟨_, rfl⟩

def structOffence? (s : Struct) : Option Json := s.properties.findSome? (offence? ·.type)

def firstOffence? (structs : List Struct) : Option Json := structs.findSome? structOffence?

theorem accessorsOf_stopped {s : Struct} (texts : StructNamed s) :
    StoppedBy (typeFault (structOffence? s)) (accessorsOf (.standard style) moduleName s.properties) := by
  have stopped : StoppedBy (s.properties.findSome? fun p => typeFault (offence? p.type))
      (accessorsOf (.standard style) moduleName s.properties) :=
    .mapM fun p member => accessorOf_stopped p (texts.properties p member).1
      (texts.properties p member).2
  rw [structOffence?, typeFault, List.map_findSome?]
  exact stopped

theorem ofRegular_stopped {s : Struct} (regular : s.kind = .regular) (texts : StructNamed s) :
    StoppedBy (typeFault (structOffence? s)) (StructCode.ofRegular (.standard style) moduleName s) := by
  obtain ⟨t, named⟩ := texts.name
  unfold StructCode.ofRegular
  rw [regular]
  unfold StructCode.of
  rw [named]
  exact (accessorsOf_stopped texts).bind fun _ _ => ⟨_, rfl⟩

structure Listed (config : Config) (ignored ordered : List Text) (style : OptionalStyle) : Prop where
  ignoring : config.ignoreStructs = some (.arr (ignored.map .str))
  ordering : config.orderStructs = some (.arr (ordered.map .str))
  styled : config.optionalStyle = .style style

theorem header_stopped {g : Generator} {structs : List Struct} (invocation : Option Invocation)
    (selected : g.selected = .ok structs) (styled : g.style = .style style)
    (regular : ∀ s ∈ structs, s.kind = .regular) (texts : ∀ s ∈ structs, StructNamed s) :
    StoppedBy (typeFault (firstOffence? structs)) (g.header invocation) := by
  have coded : ∀ s ∈ structs, StoppedBy (typeFault (structOffence? s)) (g.structCode s) := by
    intro s member
    have resolved : g.style.resolve = .ok style := by
      rw [styled]
      rfl
    rw [Generator.structCode_resolved resolved]
    exact ofRegular_stopped (regular s member) (texts s member)
  have codes : StoppedBy (typeFault (firstOffence? structs)) g.structCodes := by
    rw [g.structCodes_eq, selected, ok_bind, firstOffence?, typeFault, List.map_findSome?]
    exact .mapM coded
  unfold Generator.header
  apply codes.bind
  intro _ _
  rw [styled]
  exact ⟨_, rfl⟩

theorem make_regular {model nameGiven : Json} {config : Config} {g : Generator}
    (made : Generator.make (.model model) nameGiven config = .ok g) :
    ∀ s ∈ g.module.structs, s.kind = .regular := by
  obtain ⟨m, resolved, rfl⟩ := Generator.make_ok_iff.mp made
  exact Module.ofJson_regular (ok_of_mapError resolved)

theorem make_settings {source : Source} {nameGiven : Json} {config : Config} {g : Generator}
    (made : Generator.make source nameGiven config = .ok g) :
    g.config = config ∧ g.style = config.optionalStyle := by
  obtain ⟨m, _, rfl⟩ := Generator.make_ok_iff.mp made
  exact ⟨rfl, rfl⟩

theorem not_ignored {names : List Text} {structs : List Struct} {s : Struct}
    (member : s ∈ unnamed names structs) : ∀ t ∈ names, s.name ≠ .str t := by
  intro t listed same
  have clear := (List.mem_filter.mp member).2
  have absent : ∀ t' ∈ names, Json.same s.name (.str t') = false := by simpa using clear
  have := absent t listed
  rw [same, Json.same_str] at this
  simp at this

theorem selected_lists {g : Generator} {ignored ordered : List Text}
    (listed : Listed g.config ignored ordered style)
    (texts : ∀ s ∈ g.module.structs, StructNamed s) :
    ∃ structs, g.selected = .ok structs ∧
      ∀ s ∈ structs, s ∈ g.module.structs ∧ ∀ t ∈ ignored, s.name ≠ .str t := by
  have keys : ∀ s ∈ g.module.structs, s.name.isKey = true := by
    intro s member
    obtain ⟨t, named⟩ := (texts s member).name
    rw [named]
    rfl
  have chosen := selectStructs_lists listed.ignoring listed.ordering keys
  refine ⟨_, congrArg ofUse chosen, ?_⟩
  intro s member
  refine ⟨selectStructs_subset chosen member, ?_⟩
  rcases List.mem_append.mp member with first | later
  · obtain ⟨name, _, found⟩ := List.mem_filterMap.mp first
    exact not_ignored (lastNamed_mem found)
  · exact not_ignored (List.mem_filter.mp later).1

theorem firstOffence_eq_none_iff (structs : List Struct) :
    firstOffence? structs = none ↔ ∀ s ∈ structs, ∀ p ∈ s.properties, Mappable p.type := by
  simp only [firstOffence?, structOffence?, List.findSome?_eq_none_iff, offence_eq_none_iff]

/-- A header exists exactly when all selected properties are mappable. The fault is else the
unmappable type that comes first, and no other. -/
theorem header_all_or_nothing {model nameGiven : Json} {config : Config} {g : Generator}
    {ignored ordered : List Text} (invocation : Option Invocation)
    (made : Generator.make (.model model) nameGiven config = .ok g)
    (listed : Listed config ignored ordered style)
    (texts : ∀ s ∈ g.module.structs, StructNamed s) :
    ∃ structs, g.selected = .ok structs ∧
      (∀ s ∈ structs, s ∈ g.module.structs ∧ ∀ t ∈ ignored, s.name ≠ .str t) ∧
      ((∃ content, g.header invocation = .ok content) ↔
        ∀ s ∈ structs, ∀ p ∈ s.properties, Mappable p.type) ∧
      ∀ fault, g.header invocation = .error fault ↔
        ∃ tag, firstOffence? structs = some tag ∧ fault = .unmappableType tag := by
  obtain ⟨configured, styled⟩ := make_settings made
  rw [← configured] at listed
  obtain ⟨structs, selected, among⟩ := selected_lists listed texts
  have stopped := header_stopped invocation selected (styled.trans (configured ▸ listed.styled))
    (fun s member => make_regular made s (among s member).1)
    (fun s member => texts s (among s member).1)
  refine ⟨structs, selected, among, ?_, ?_⟩
  · rw [stopped.exists_ok_iff, typeFault, Option.map_eq_none_iff]
    exact firstOffence_eq_none_iff structs
  · intro fault
    rw [stopped.error_iff, typeFault, Option.map_eq_some_iff]
    simp only [eq_comm]

def typeObject (tag : Text) (others : List (Text × Json)) : Json := .obj (("type", .str tag) :: others)

def propertyObject (name : Text) (type : Json) : Json :=
  .obj [("name", .str name), ("typeAnnotation", type)]

def structObject (name : Text) (properties : List Json) : Json :=
  .obj [("name", .str name), ("properties", .arr properties)]

/-- The struct to skip has an unknown marker, the other one wraps its elements twice. -/
def doublyWrapped : Json :=
  .obj [("moduleName", .str "Maps"), ("structs", .arr [
    structObject "skipped" [propertyObject "a" (typeObject reservedTag [("name", .str "Other")])],
    structObject "kept" [propertyObject "b" (typeObject "StringTypeAnnotation" []),
      propertyObject "c" (typeObject arrayTag [("elementType",
        typeObject nullableTag [("typeAnnotation",
          typeObject nullableTag [("typeAnnotation", typeObject "StringTypeAnnotation" [])])])])]])]

def skipping : Config :=
  { Config.standard with ignoreStructs := some (.arr [.str "skipped"]) }

def keptStruct : Struct :=
  ⟨.regular, .str "kept", [⟨.str "b", .leaf .string, false⟩,
    ⟨.str "c", .array (.nullable (.nullable (.leaf .string))), false⟩]⟩

def doublyWrappedModule : Module :=
  ⟨.str "Maps", [⟨.regular, .str "skipped", [⟨.str "a", .reserved (.str "Other"), false⟩]⟩,
    keptStruct]⟩

theorem header_of_doublyWrapped :
    ∃ g, Generator.make (.model doublyWrapped) .null skipping = .ok g ∧
      (∀ s ∈ g.module.structs, StructNamed s) ∧
      g.header none = .error (.unmappableType (.str nullableTag)) := by
  have made : Generator.make (.model doublyWrapped) .null skipping =
      .ok ⟨doublyWrappedModule, .style .folly, skipping⟩ := by with_unfolding_all rfl
  have texts : ∀ s ∈ doublyWrappedModule.structs, StructNamed s := by
    intro s member
    simp only [doublyWrappedModule, List.mem_cons, List.not_mem_nil, or_false] at member
    rcases member with rfl | rfl
    · exact ⟨⟨_, rfl⟩, by simp [Named, TypeNamed]⟩
    · exact ⟨⟨_, rfl⟩, by simp [keptStruct, Named, TypeNamed]⟩
  have listed : Listed skipping ["skipped"] [] .folly := ⟨rfl, rfl, rfl⟩
  obtain ⟨structs, selected, _, _, faults⟩ := header_all_or_nothing none made listed texts
  obtain rfl : [keptStruct] = structs := Except.ok.inj selected
  exact ⟨_, made, texts, (faults _).mpr ⟨_, rfl, rfl⟩⟩

end StructBridge
