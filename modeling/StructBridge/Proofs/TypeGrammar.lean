import StructBridge.Proofs.Traversal
import StructBridge.Schema.Reader

/-!
The types of a model as a grammar of JSON values: which value denotes which type, said without a
reader. A type is read from a value exactly when the value denotes it. What stops the reading of any
other value is a schema fault, unless wrappers and arrays lead to a value whose tag is itself a list
or an object, which no table of tags can look up.
-/
namespace StructBridge.Schema

def Tagged (v : Json) (tag : Text) : Prop := v.field? "type" = some (.str tag)

/-- The types that a value denotes, by the keys that each kind of type looks at. -/
inductive Denotes : Json → FieldType → Prop where
  | leaf {v : Json} (kind : Leaf) (tagged : Tagged v kind.tag) : Denotes v (.leaf kind)
  | reserved {v : Json} (tagged : Tagged v "ReservedTypeAnnotation" ∨
      Tagged v "ReservedFunctionValueTypeAnnotation") :
      Denotes v (.reserved ((v.field? "name").getD (.str "")))
  | nullable {v inner : Json} {t : FieldType} (tagged : Tagged v "NullableTypeAnnotation")
      (inside : v.field? "typeAnnotation" = some inner) (denoted : Denotes inner t) :
      Denotes v (.nullable t)
  | untypedArray {v : Json} (tagged : Tagged v "ArrayTypeAnnotation")
      (absent : v.field? "elementType" = none ∨ v.field? "elementType" = some .null) :
      Denotes v .untypedArray
  | array {v element : Json} {t : FieldType} (tagged : Tagged v "ArrayTypeAnnotation")
      (inside : v.field? "elementType" = some element) (denoted : Denotes element t) :
      Denotes v (.array t)
  | named {v name : Json} (tagged : Tagged v "TypeAliasTypeAnnotation")
      (given : v.field? "name" = some name) (present : name.truthy = true) :
      Denotes v (.named name)

/-- The values that wrappers and arrays lead to. -/
inductive LeadsInto : Json → Json → Prop where
  | here (v : Json) : LeadsInto v v
  | wrapped {v inner w : Json} (tagged : Tagged v "NullableTypeAnnotation")
      (inside : v.field? "typeAnnotation" = some inner) (further : LeadsInto inner w) :
      LeadsInto v w
  | element {v inner w : Json} (tagged : Tagged v "ArrayTypeAnnotation")
      (inside : v.field? "elementType" = some inner) (further : LeadsInto inner w) :
      LeadsInto v w

/-- The list or object that stands for a tag where the way into a value ends. -/
def MisusedTag (v tag : Json) : Prop :=
  ∃ w, LeadsInto v w ∧ w.field? "type" = some tag ∧ tag.isKey = false

theorem given_eq_some_iff {v w : Json} {key : Text} :
    v.given? key = some w ↔ v.field? key = some w ∧ w ≠ .null := by
  unfold Json.given?
  cases v.field? key with
  | none => simp
  | some found => cases found <;> simp <;> rintro rfl <;> simp

theorem given_eq_none_iff {v : Json} {key : Text} :
    v.given? key = none ↔ v.field? key = none ∨ v.field? key = some .null := by
  unfold Json.given?
  cases v.field? key with
  | none => simp
  | some found => cases found <;> simp

theorem Denotes.ne_null {v : Json} {t : FieldType} (denoted : Denotes v t) : v ≠ .null := by
  rintro rfl
  cases denoted with
  | reserved tagged => rcases tagged with tagged | tagged <;> cases tagged
  | leaf kind tagged => cases tagged
  | nullable tagged => cases tagged
  | untypedArray tagged => cases tagged
  | array tagged => cases tagged
  | named tagged => cases tagged

theorem MisusedTag.ne_null {v tag : Json} (misused : MisusedTag v tag) : v ≠ .null := by
  rintro rfl
  obtain ⟨w, led, tagged, _⟩ := misused
  cases led with
  | here => cases tagged
  | wrapped tagged => cases tagged
  | element tagged => cases tagged

namespace FieldType

/-- One step of the reading. -/
theorem ofJson_eq (v : Json) :
    ofJson v =
      match v.field? "type" with
      | none => wrong .typeNotTagged
      | some (.str tag) =>
        match Leaf.ofTag? tag with
        | some kind => .ok (leaf kind)
        | none =>
          if tag = reservedTag ∨ tag = reservedFunctionTag then
            .ok (reserved (v.fieldD "name" (.str "")))
          else if tag = nullableTag then
            (v.given? nullableKey).elim (wrong .nullableEmpty) fun inner =>
              (under (.key nullableKey) (ofJson inner)).map nullable
          else if tag = arrayTag then
            (v.given? elementKey).elim (.ok untypedArray) fun element =>
              (under (.key elementKey) (ofJson element)).map array
          else if tag = namedTag then
            if (v.fieldD "name" .null).truthy then .ok (named (v.fieldD "name" .null))
            else wrong .aliasNameMissing
          else wrong (.unknownType (.str tag))
      | some tag =>
        if tag.isKey then wrong (.unknownType tag) else .error (.misuse (.unkeyable tag)) := by
  rw [ofJson]
  cases v.given? nullableKey <;> cases v.given? elementKey <;> rfl

theorem reservedTags_apart :
    Leaf.ofTag? reservedTag = none ∧ Leaf.ofTag? reservedFunctionTag = none := by
  unfold Leaf.ofTag? Leaf.all Leaf.tag reservedTag reservedFunctionTag
  repeat rw [Text.ofString_literal]
  decide

theorem nullableTag_apart :
    Leaf.ofTag? nullableTag = none ∧
      ¬(nullableTag = reservedTag ∨ nullableTag = reservedFunctionTag) := by
  unfold Leaf.ofTag? Leaf.all Leaf.tag nullableTag reservedTag reservedFunctionTag
  repeat rw [Text.ofString_literal]
  decide

theorem arrayTag_apart :
    Leaf.ofTag? arrayTag = none ∧ ¬(arrayTag = reservedTag ∨ arrayTag = reservedFunctionTag) ∧
      arrayTag ≠ nullableTag := by
  unfold Leaf.ofTag? Leaf.all Leaf.tag arrayTag reservedTag reservedFunctionTag nullableTag
  repeat rw [Text.ofString_literal]
  decide

theorem namedTag_apart :
    Leaf.ofTag? namedTag = none ∧ ¬(namedTag = reservedTag ∨ namedTag = reservedFunctionTag) ∧
      namedTag ≠ nullableTag ∧ namedTag ≠ arrayTag := by
  unfold Leaf.ofTag? Leaf.all Leaf.tag namedTag reservedTag reservedFunctionTag nullableTag arrayTag
  repeat rw [Text.ofString_literal]
  decide

section Steps

variable {v inner : Json}

theorem ofJson_leaf (kind : Leaf) (tagged : Tagged v kind.tag) : ofJson v = .ok (leaf kind) := by
  rw [ofJson_eq, tagged]
  simp only [Leaf.ofTag_tag]

/-- One step of the reading of what no leaf is. The tag is a variable, so that checking the step
evaluates no text. -/
theorem ofJson_tagged {tag : Text} (tagged : Tagged v tag) (noLeaf : Leaf.ofTag? tag = none) :
    ofJson v =
      if tag = reservedTag ∨ tag = reservedFunctionTag then
        .ok (reserved (v.fieldD "name" (.str "")))
      else if tag = nullableTag then
        (v.given? nullableKey).elim (wrong .nullableEmpty) fun inner =>
          (under (.key nullableKey) (ofJson inner)).map nullable
      else if tag = arrayTag then
        (v.given? elementKey).elim (.ok untypedArray) fun element =>
          (under (.key elementKey) (ofJson element)).map array
      else if tag = namedTag then
        if (v.fieldD "name" .null).truthy then .ok (named (v.fieldD "name" .null))
        else wrong .aliasNameMissing
      else wrong (.unknownType (.str tag)) := by
  rw [ofJson_eq, tagged]
  simp only [noLeaf]

theorem ofJson_reserved (tagged : Tagged v reservedTag ∨ Tagged v reservedFunctionTag) :
    ofJson v = .ok (reserved (v.fieldD "name" (.str ""))) := by
  obtain ⟨plain, function⟩ := reservedTags_apart
  rcases tagged with tagged | tagged
  · rw [ofJson_tagged tagged plain, if_pos (.inl rfl)]
  · rw [ofJson_tagged tagged function, if_pos (.inr rfl)]

theorem ofJson_nullable (tagged : Tagged v nullableTag)
    (inside : v.given? nullableKey = some inner) :
    ofJson v = (under (.key nullableKey) (ofJson inner)).map nullable := by
  obtain ⟨noLeaf, unreserved⟩ := nullableTag_apart
  rw [ofJson_tagged tagged noLeaf, if_neg unreserved, if_pos rfl, inside, Option.elim_some]

theorem ofJson_untypedArray (tagged : Tagged v arrayTag) (absent : v.given? elementKey = none) :
    ofJson v = .ok untypedArray := by
  obtain ⟨noLeaf, unreserved, notNullable⟩ := arrayTag_apart
  rw [ofJson_tagged tagged noLeaf, if_neg unreserved, if_neg notNullable, if_pos rfl, absent,
    Option.elim_none]

theorem ofJson_array (tagged : Tagged v arrayTag) (inside : v.given? elementKey = some inner) :
    ofJson v = (under (.key elementKey) (ofJson inner)).map array := by
  obtain ⟨noLeaf, unreserved, notNullable⟩ := arrayTag_apart
  rw [ofJson_tagged tagged noLeaf, if_neg unreserved, if_neg notNullable, if_pos rfl, inside,
    Option.elim_some]

theorem ofJson_named {name : Json} (tagged : Tagged v namedTag)
    (given : v.field? "name" = some name) (present : name.truthy = true) :
    ofJson v = .ok (named name) := by
  obtain ⟨noLeaf, unreserved, notNullable, notArray⟩ := namedTag_apart
  have found : v.fieldD "name" .null = name := by
    rw [Json.fieldD, given, Option.getD_some]
  rw [ofJson_tagged tagged noLeaf, if_neg unreserved, if_neg notNullable, if_neg notArray,
    if_pos rfl, found, if_pos present]

theorem ofJson_misused {tag : Json} (tagged : v.field? "type" = some tag)
    (key : tag.isKey = false) : ofJson v = .error (.misuse (.unkeyable tag)) := by
  rw [ofJson_eq, tagged]
  cases tag with
  | arr items => rfl
  | obj fields => rfl
  | _ => cases key

end Steps

/-- Every type that a value denotes is read from it. -/
theorem ofJson_of_denotes {v : Json} {t : FieldType} (denoted : Denotes v t) :
    ofJson v = .ok t := by
  induction denoted with
  | leaf kind tagged => exact ofJson_leaf kind tagged
  | reserved tagged => exact ofJson_reserved tagged
  | nullable tagged inside denoted ih =>
    rw [ofJson_nullable tagged (given_eq_some_iff.mpr ⟨inside, denoted.ne_null⟩), ih]
    rfl
  | untypedArray tagged absent =>
    exact ofJson_untypedArray tagged (given_eq_none_iff.mpr absent)
  | array tagged inside denoted ih =>
    rw [ofJson_array tagged (given_eq_some_iff.mpr ⟨inside, denoted.ne_null⟩), ih]
    rfl
  | named tagged given present => exact ofJson_named tagged given present

/-- A misused tag stops the reading wherever it lies. -/
theorem ofJson_of_misusedTag {v tag : Json} (misused : MisusedTag v tag) :
    ofJson v = .error (.misuse (.unkeyable tag)) := by
  obtain ⟨w, led, tagged, key⟩ := misused
  induction led with
  | here v => exact ofJson_misused tagged key
  | wrapped tagged' inside further ih =>
    have stopped : MisusedTag _ tag := ⟨_, further, tagged, key⟩
    rw [ofJson_nullable tagged' (given_eq_some_iff.mpr ⟨inside, stopped.ne_null⟩), ih tagged]
    rfl
  | element tagged' inside further ih =>
    have stopped : MisusedTag _ tag := ⟨_, further, tagged, key⟩
    rw [ofJson_array tagged' (given_eq_some_iff.mpr ⟨inside, stopped.ne_null⟩), ih tagged]
    rfl

/-- What the result of a reading says about the value that was read. -/
def Explained (v : Json) : Read FieldType → Prop
  | .ok t => Denotes v t
  | .error (.misuse use) => ∃ tag, use = .unkeyable tag ∧ MisusedTag v tag
  | .error (.wrong _ _) => True

theorem explained_nullable {v inner : Json} (tagged : Tagged v nullableTag)
    (inside : v.field? nullableKey = some inner) {r : Read FieldType} (read : Explained inner r) :
    Explained v ((under (.key nullableKey) r).map nullable) := by
  cases r with
  | ok t => exact .nullable tagged inside read
  | error fault =>
    cases fault with
    | wrong cause trail => trivial
    | misuse use =>
      obtain ⟨tag, rfl, w, led, misused⟩ := read
      exact ⟨tag, rfl, w, .wrapped tagged inside led, misused⟩

theorem explained_array {v element : Json} (tagged : Tagged v arrayTag)
    (inside : v.field? elementKey = some element) {r : Read FieldType}
    (read : Explained element r) : Explained v ((under (.key elementKey) r).map array) := by
  cases r with
  | ok t => exact .array tagged inside read
  | error fault =>
    cases fault with
    | wrong cause trail => trivial
    | misuse use =>
      obtain ⟨tag, rfl, w, led, misused⟩ := read
      exact ⟨tag, rfl, w, .element tagged inside led, misused⟩

theorem ofJson_explained (v : Json) : Explained v (ofJson v) := by
  fun_induction ofJson v with
  | case1 v untagged => trivial
  | case2 v tag tagged kind found =>
    exact .leaf kind (Leaf.tag_of_ofTag found ▸ tagged)
  | case3 v tag tagged other known =>
    rcases known with rfl | rfl
    · exact .reserved (.inl tagged)
    · exact .reserved (.inr tagged)
  | case4 => trivial
  | case5 v inner inside tagged other known ih =>
    exact explained_nullable tagged (given_eq_some_iff.mp inside).1 ih
  | case6 v absent tagged => exact .untypedArray tagged (given_eq_none_iff.mp absent)
  | case7 v element inside tagged other known skipped ih =>
    exact explained_array tagged (given_eq_some_iff.mp inside).1 ih
  | case8 v name present tagged =>
    cases given : v.field? "name" with
    | none =>
      have missing : name = .null := by simp only [name, Json.fieldD, given, Option.getD_none]
      rw [missing] at present
      cases present
    | some found =>
      have named : name = found := by simp only [name, Json.fieldD, given, Option.getD_some]
      rw [named] at present ⊢
      exact .named tagged given present
  | case9 => trivial
  | case10 => trivial
  | case11 => trivial
  | case12 v tag other tagged key =>
    exact ⟨tag, rfl, v, .here v, tagged, Bool.eq_false_iff.mpr key⟩

def typeKeys : List Text := ["type", "name", "typeAnnotation", "elementType"]

theorem ofJson_congr {v v' : Json} (same : ∀ key ∈ typeKeys, v'.field? key = v.field? key) :
    ofJson v' = ofJson v := by
  have given (key : Text) (member : key ∈ typeKeys) : v'.given? key = v.given? key := by
    unfold Json.given?
    rw [same key member]
  have field (key : Text) (member : key ∈ typeKeys) (missing : Json) :
      v'.fieldD key missing = v.fieldD key missing := by
    unfold Json.fieldD
    rw [same key member]
  rw [ofJson_eq v', ofJson_eq v, same "type" (by simp [typeKeys]),
    given nullableKey (by simp [typeKeys, nullableKey]),
    given elementKey (by simp [typeKeys, elementKey]), field "name" (by simp [typeKeys]),
    field "name" (by simp [typeKeys])]

theorem ofJson_ok_iff {v : Json} {t : FieldType} : ofJson v = .ok t ↔ Denotes v t := by
  constructor
  · intro read
    have explained := ofJson_explained v
    rw [read] at explained
    exact explained
  · exact ofJson_of_denotes

theorem ofJson_misuse_iff {v : Json} {use : Misuse} :
    ofJson v = .error (.misuse use) ↔ ∃ tag, use = .unkeyable tag ∧ MisusedTag v tag := by
  constructor
  · intro stopped
    have explained := ofJson_explained v
    rw [stopped] at explained
    exact explained
  · rintro ⟨tag, rfl, misused⟩
    exact ofJson_of_misusedTag misused

theorem ofJson_wrong_iff {v : Json} :
    (∃ cause trail, ofJson v = .error (.wrong cause trail)) ↔
      (∀ t, ¬Denotes v t) ∧ ∀ tag, ¬MisusedTag v tag := by
  constructor
  · rintro ⟨cause, trail, stopped⟩
    constructor
    · intro t denoted
      rw [ofJson_of_denotes denoted] at stopped
      cases stopped
    · intro tag misused
      rw [ofJson_of_misusedTag misused] at stopped
      cases stopped
  · rintro ⟨nothing, keys⟩
    cases result : ofJson v with
    | ok t => exact absurd (ofJson_ok_iff.mp result) (nothing t)
    | error fault =>
      cases fault with
      | wrong cause trail => exact ⟨cause, trail, rfl⟩
      | misuse use =>
        obtain ⟨tag, _, misused⟩ := ofJson_misuse_iff.mp result
        exact absurd misused (keys tag)

end FieldType

section Start

variable {α : Type} {start : Text} {r : Read α}

theorem startingAt_ok_iff {a : α} : startingAt start r = .ok a ↔ r = .ok a := by
  cases r <;> simp [startingAt, Except.mapError]

theorem startingAt_misuse_iff {use : Misuse} :
    startingAt start r = .error (.misuse use) ↔ r = .error (.misuse use) := by
  cases r with
  | ok a => simp [startingAt, Except.mapError]
  | error fault => cases fault <;> simp [startingAt, Except.mapError, ReadFault.located]

theorem startingAt_schema_iff :
    (∃ cause path, startingAt start r = .error (.schema cause path)) ↔
      ∃ cause trail, r = .error (.wrong cause trail) := by
  cases r with
  | ok a => simp [startingAt, Except.mapError]
  | error fault => cases fault <;> simp [startingAt, Except.mapError, ReadFault.located]

end Start

/-- A type is read exactly from what denotes it. A misused tag on the way is the one fault that is
not of the schema, and no other key of a value matters. -/
theorem types_read_exactly (start : Text) (v : Json) :
    (∀ t, startingAt start (FieldType.ofJson v) = .ok t ↔ Denotes v t) ∧
      (∀ use, startingAt start (FieldType.ofJson v) = .error (.misuse use) ↔
        ∃ tag, use = .unkeyable tag ∧ MisusedTag v tag) ∧
      ((∃ cause path, startingAt start (FieldType.ofJson v) = .error (.schema cause path)) ↔
        (∀ t, ¬Denotes v t) ∧ ∀ tag, ¬MisusedTag v tag) ∧
      ∀ v', (∀ key ∈ FieldType.typeKeys, v'.field? key = v.field? key) →
        startingAt start (FieldType.ofJson v') = startingAt start (FieldType.ofJson v) := by
  refine ⟨?_, ?_, ?_, ?_⟩
  · intro t
    rw [startingAt_ok_iff, FieldType.ofJson_ok_iff]
  · intro use
    rw [startingAt_misuse_iff, FieldType.ofJson_misuse_iff]
  · rw [startingAt_schema_iff, FieldType.ofJson_wrong_iff]
  · intro v' same
    rw [FieldType.ofJson_congr same]

/-- A list of texts, any of which may be null. -/
def textList : List (Text × Json) :=
  [("type", .str "ArrayTypeAnnotation"),
   ("elementType", .obj [("type", .str "NullableTypeAnnotation"),
     ("typeAnnotation", .obj [("type", .str "StringTypeAnnotation")])])]

theorem notedTextList_read :
    Denotes (.obj textList) (.array (.nullable (.leaf .string))) ∧
      startingAt "#" (FieldType.ofJson (.obj (("comment", .arr []) :: textList))) =
        .ok (.array (.nullable (.leaf .string))) := by
  have text : Denotes (.obj [("type", .str "StringTypeAnnotation")]) (.leaf .string) :=
    .leaf .string (by with_unfolding_all rfl)
  have denoted : Denotes (.obj textList) (.array (.nullable (.leaf .string))) :=
    .array (by with_unfolding_all rfl) (by with_unfolding_all rfl)
      (.nullable (by with_unfolding_all rfl) (by with_unfolding_all rfl) text)
  have same : ∀ key ∈ FieldType.typeKeys,
      Json.field? (.obj (("comment", .arr []) :: textList)) key =
        Json.field? (.obj textList) key := by
    have apart : ∀ key ∈ FieldType.typeKeys, (key == Text.ofString "comment") = false := by
      decide
    intro key member
    rw [Json.field?, Json.field?, List.lookup_cons, apart key member]
  obtain ⟨read, _, _, ignored⟩ := types_read_exactly "#" (.obj textList)
  exact ⟨denoted, (ignored _ same).trans ((read _).mpr denoted)⟩

end StructBridge.Schema
