import StructBridge.Proofs.AccessorNames
import StructBridge.Proofs.HeaderLines
import StructBridge.Proofs.HeaderParts
import StructBridge.Proofs.UpperCase

/-!
The members that the code of a struct declares: an accessor for each property, the constructor and
the field that holds the dictionary. The reader keeps the accessors apart, but knows nothing of the
other two. Names meet in three ways only: a property is named like the field, a property is named
like the constructor, or the struct is named like the field.
-/
namespace StructBridge

namespace Text

theorem upper_ne_nil (c : CodePoint) : upper c ≠ [] := by
  have expanded : ∀ entry ∈ caseExpansions, entry.2 ≠ [] := by decide
  unfold upper upperCodes
  split
  · rename_i codes found
    obtain ⟨before, after, split, _⟩ := List.lookup_eq_some_iff.mp found
    have among : (c.value, codes) ∈ caseExpansions := by simp [split]
    exact fun none => expanded _ among (List.map_eq_nil_iff.mp none)
  split <;> exact List.cons_ne_nil _ _

/-- An upper case holds no letter from a to z, also where it is the code point itself. -/
theorem mem_upper_raised {c u : CodePoint} (member : u ∈ upper c) : IsRaised u.value := by
  have letters : ∀ n < 0x7b, 0x61 ≤ n → upperCodes n = [n - 0x20] := by decide
  rcases upper_raised c with same | raised
  · -- A letter from a to z is never its own upper case.
    by_contra lower
    have held := member
    rw [same] at held
    obtain rfl := List.mem_singleton.mp held
    have range : 0x61 ≤ u.value ∧ u.value < 0x7b := by
      unfold IsRaised at lower
      omega
    rw [upper, letters _ range.2 range.1] at member
    have moved := congrArg CodePoint.value (List.mem_singleton.mp member)
    rcases CodePoint.value_ofNat (u.value - 0x20) with less | zero <;> omega
  · exact raised u member

theorem underscore_upper {c : CodePoint} (member : .char '_' ∈ upper c) : upper c = [c] := by
  have expanded : ∀ entry ∈ caseExpansions, ∀ n ∈ entry.2, n ≠ 0x5f := by decide
  have shifted : ∀ r ∈ caseRuns, (r.last : Int) + r.shift < 0x5f ∨
      0x5f < (r.first : Int) + r.shift := by decide +kernel
  have moved : ∀ r ∈ caseRuns, ∀ c, r.covers c = true → (c + r.shift).toNat ≠ 0x5f := by
    intro r among c covers
    simp only [CaseRun.covers, Bool.and_eq_true, decide_eq_true_eq] at covers
    have bounds := shifted r among
    omega
  rcases upper_cases expanded moved c with same | ⟨codes, made, each⟩
  · exact same
  · rw [made] at member
    obtain ⟨n, coded, same⟩ := List.mem_map.mp member
    have value : (CodePoint.ofNat n).value = 0x5f := congrArg CodePoint.value same
    have apart := each n coded
    rcases CodePoint.value_ofNat n with kept | zero <;> omega

end Text

namespace Name
open Text

theorem capitalizeText_head {t : Text} {c : CodePoint} (first : (capitalizeText t).head? = some c) :
    IsRaised c.value := by
  cases t with
  | nil => cases first
  | cons d rest =>
    obtain ⟨u, others, made⟩ := List.exists_cons_of_ne_nil (upper_ne_nil d)
    rw [capitalizeText, made] at first
    obtain rfl := Option.some.inj first
    exact mem_upper_raised (made ▸ List.mem_cons_self)

theorem reservedWords_start : ∀ w ∈ reservedWords, ∃ c rest, w = c :: rest ∧ ¬IsRaised c.value := by
  have lower : ∀ w ∈ reservedWords, w ≠ [] ∧ ∀ c ∈ w, 0x61 ≤ c.value ∧ c.value ≤ 0x7a := by
    unfold reservedWords
    repeat rw [Text.ofString_literal]
    decide
  intro w reserved
  obtain ⟨present, range⟩ := lower w reserved
  obtain ⟨c, rest, rfl⟩ := List.exists_cons_of_ne_nil present
  refine ⟨c, rest, rfl, ?_⟩
  have bounds := range c List.mem_cons_self
  unfold IsRaised
  omega

theorem capitalizeText_not_reserved {t w : Text} (reserved : w ∈ reservedWords) (more : Text) :
    capitalizeText t ≠ w ++ more := by
  obtain ⟨c, rest, rfl, lower⟩ := reservedWords_start w reserved
  intro same
  exact lower (capitalizeText_head (congrArg List.head? same))

/-- A property whose accessor is a capitalised name has that name itself. -/
theorem accessorText_eq_capitalized {t u : Text} :
    accessorText t = capitalizeText u ↔ t = capitalizeText u := by
  constructor
  · intro same
    by_cases reserved : t ∈ reservedWords
    · rw [accessorText_reserved reserved] at same
      exact absurd same.symm (capitalizeText_not_reserved reserved "_")
    · rw [accessorText_plain reserved] at same
      exact same
  · rintro rfl
    exact accessorText_plain fun reserved =>
      capitalizeText_not_reserved reserved [] (List.append_nil (capitalizeText u)).symm

def fieldName : Text := "_v"

theorem capitalizeText_eq_field {t : Text} : capitalizeText t = fieldName ↔ t = fieldName := by
  have letters : fieldName = [.char '_', .char 'v'] := by
    rw [fieldName, Text.ofString_literal]
    rfl
  rw [letters]
  constructor
  · intro same
    cases t with
    | nil => cases same
    | cons c rest =>
      rw [capitalizeText] at same
      obtain ⟨u, others, made⟩ := List.exists_cons_of_ne_nil (upper_ne_nil c)
      have first : u = .char '_' := by
        rw [made] at same
        exact (List.cons.inj same).1
      have kept : upper c = [c] := underscore_upper (by rw [made, first]; exact List.mem_cons_self)
      rw [kept] at same
      exact same
  · rintro rfl
    decide

theorem accessorText_eq_field {t : Text} : accessorText t = fieldName ↔ t = fieldName := by
  have same : capitalizeText fieldName = fieldName := capitalizeText_eq_field.mpr rfl
  rw [← same]
  exact accessorText_eq_capitalized

end Name

namespace Code
open Name Schema

/-- A member of a struct: its name, within the line that declares it. -/
structure Member where
  before : Text
  name : Text
  after : Text

def Member.line (m : Member) : Text := m.before ++ m.name ++ m.after

def Accessor.member (style : OptionalStyle) (a : Accessor) : Member :=
  ⟨a.paddedType style, a.name, "() const;"⟩

def constructorMember (struct : Text) : Member :=
  ⟨"", struct, "(NSDictionary *const v) : _v(v) \x7b\x7d"⟩

def fieldMember : Member := ⟨"NSDictionary *", fieldName, ";"⟩

/-- All members that a struct of some name is declared with. -/
def members (style : OptionalStyle) (struct : Text) (accessors : List Accessor) : List Member :=
  accessors.map (·.member style) ++ [constructorMember struct, fieldMember]

/-- The lines between the braces of a struct, with those of its members. -/
def memberLines (style : OptionalStyle) (struct : Text) (accessors : List Accessor) : List Text :=
  let inner : List Text :=
    ["", "      " ++ (constructorMember struct).line, "    private:", "      " ++ fieldMember.line]
  accessorLines (accessors.map fun a => (a.member style).line) ++ inner

theorem declarationLines_members (style : OptionalStyle) (moduleName struct : Text)
    (accessors : List Accessor) :
    declarationLines moduleName struct (accessors.map (·.declaration style)) =
      namespaceLines moduleName ++
        blockStart struct :: (memberLines style struct accessors ++ [blockEnd]) ++
        tailLines moduleName struct := by
  have constructor : Text.ofString "      " ++ (constructorMember struct).line =
      "      " ++ struct ++ "(NSDictionary *const v) : _v(v) \x7b\x7d" := by
    rw [Member.line, constructorMember, List.append_assoc]
    rfl
  have field : Text.ofString "      " ++ fieldMember.line = "      NSDictionary *_v;" := by
    decide
  rw [memberLines, constructor, field]
  rfl

variable {style : OptionalStyle} {moduleName : Text} {v : Json} {s : Struct} {code : StructCode}
  {n : Text} {names : List Text}

theorem accessorOf_named {p : Property} {a : Accessor} {t : Text} (named : p.name = .str t)
    (made : accessorOf (.standard style) moduleName p = .ok a) : a.name = accessorText t := by
  obtain ⟨called, _⟩ := accessorOf_parts made
  rw [named] at called
  exact (Except.ok.inj called).symm

theorem accessors_named {properties : List Property} {accessors : List Accessor}
    (texts : properties.map (·.name) = names.map .str)
    (coded : List.Forall₂ (fun p a => accessorOf (.standard style) moduleName p = .ok a) properties
      accessors) :
    accessors.map (·.name) = names.map accessorText := by
  induction coded generalizing names with
  | nil =>
    obtain rfl : names = [] := List.map_eq_nil_iff.mp texts.symm
    rfl
  | cons made _ ih =>
    obtain ⟨t, others, rfl, first, later⟩ := List.map_eq_cons_iff.mp texts.symm
    rw [List.map_cons, List.map_cons, accessorOf_named first.symm made, ih later.symm]

theorem checked_of_read (read : Struct.ofJson v = .ok s) :
    checkAccessors [] 0 s.properties = .ok () := by
  obtain ⟨_, _, _, _, checked, _⟩ := Struct.ofJson_ok_iff.mp read
  exact checked

theorem members_nodup_iff {accessors : List Accessor} (distinct : (names.map accessorText).Nodup)
    (named : accessors.map (·.name) = names.map accessorText) :
    ((members style (capitalizeText n) accessors).map (·.name)).Nodup ↔
      fieldName ∉ names ∧ capitalizeText n ∉ names ∧ n ≠ fieldName := by
  have field : fieldName ∈ names.map accessorText ↔ fieldName ∈ names := by
    simp only [List.mem_map, accessorText_eq_field, exists_eq_right]
  have constructor : capitalizeText n ∈ names.map accessorText ↔ capitalizeText n ∈ names := by
    simp only [List.mem_map, accessorText_eq_capitalized, exists_eq_right]
  have all : (members style (capitalizeText n) accessors).map (·.name) =
      names.map accessorText ++ [capitalizeText n, fieldName] := by
    rw [members, List.map_append, List.map_map, ← named]
    rfl
  -- The two names that the reader knows nothing of come first.
  rw [all, List.nodup_append_comm, List.cons_append, List.nodup_cons, List.cons_append,
    List.nodup_cons, List.nil_append, List.mem_cons, constructor, field, capitalizeText_eq_field]
  tauto

/-- The members that a struct is declared with have different names, but for a property named like
the field, a property named like the constructor and a struct named like the field. -/
theorem members_apart_exactly (read : Struct.ofJson v = .ok s) (named : s.name = .str n)
    (texts : s.properties.map (·.name) = names.map .str)
    (coded : StructCode.ofRegular (.standard style) moduleName s = .ok code) :
    ∃ accessors, accessorsOf (.standard style) moduleName s.properties = .ok accessors ∧
      code.declaration = unlines (namespaceLines moduleName ++
        blockStart (capitalizeText n) ::
          (memberLines style (capitalizeText n) accessors ++ [blockEnd]) ++
        tailLines moduleName (capitalizeText n)) ++ declarationEnd ∧
      accessors.map (·.name) = names.map accessorText ∧ (names.map accessorText).Nodup ∧
      (((members style (capitalizeText n) accessors).map (·.name)).Nodup ↔
        fieldName ∉ names ∧ capitalizeText n ∉ names ∧ n ≠ fieldName) := by
  obtain ⟨name, accessors, capitalized, made, declaration, _⟩ := ofRegular_ok coded
  rw [named, capitalize_str] at capitalized
  obtain rfl := Except.ok.inj capitalized
  have distinct : (names.map accessorText).Nodup := by
    rcases checkAccessors_all texts with ⟨_, distinct⟩ | ⟨_, _, _, _, _, _, stops⟩
    · exact distinct
    · exact nomatch (checked_of_read read).symm.trans stops
  have called := accessors_named texts (forall₂_of_mapM made)
  refine ⟨accessors, made, ?_, called, distinct, members_nodup_iff distinct called⟩
  rw [declaration, declarationText_eq, declarationLines_members]

def numberProperty (name : Text) : Json :=
  .obj [("name", .str name), ("typeAnnotation", .obj [("type", .str "NumberTypeAnnotation")])]

def numbersObject (name : Text) (names : List Text) : Json :=
  .obj [("name", .str name), ("properties", .arr (names.map numberProperty))]

def numberStruct (name : Text) (names : List Text) : Struct :=
  ⟨.regular, .str name, names.map fun t => ⟨.str t, .leaf .number, false⟩⟩

theorem point_members_apart :
    ∃ accessors,
      accessorsOf (.standard .folly) "Maps" (numberStruct "point" ["x", "id"]).properties =
        .ok accessors ∧
      ((members .folly (capitalizeText "point") accessors).map (·.name)).Nodup := by
  have read : Struct.ofJson (numbersObject "point" ["x", "id"]) =
      .ok (numberStruct "point" ["x", "id"]) := by with_unfolding_all rfl
  obtain ⟨code, coded⟩ : ∃ code, StructCode.ofRegular (.standard .folly) "Maps"
      (numberStruct "point" ["x", "id"]) = .ok code := ⟨_, rfl⟩
  have texts : (numberStruct "point" ["x", "id"]).properties.map (·.name) =
      [Text.ofString "x", Text.ofString "id"].map .str := rfl
  obtain ⟨accessors, made, _, _, _, apart⟩ := members_apart_exactly read rfl texts coded
  exact ⟨accessors, made, apart.mpr (by decide)⟩

/-- A struct that is read and coded although two of its members have one name. -/
def Collides (v : Json) (n : Text) : Prop :=
  ∃ s code accessors, Struct.ofJson v = .ok s ∧ s.name = .str n ∧
    StructCode.ofRegular (.standard .folly) "Maps" s = .ok code ∧
    accessorsOf (.standard .folly) "Maps" s.properties = .ok accessors ∧
    ¬((members .folly (capitalizeText n) accessors).map (·.name)).Nodup

/-- A property named like the field, one named like the constructor, and a struct named like the
field. -/
theorem members_collide :
    Collides (numbersObject "point" ["_v"]) "point" ∧
      Collides (numbersObject "point" ["Point"]) "point" ∧
      Collides (numbersObject "_v" []) "_v" := by
  refine ⟨⟨numberStruct "point" ["_v"], _, _, by with_unfolding_all rfl, rfl, rfl, rfl, ?_⟩,
    ⟨numberStruct "point" ["Point"], _, _, by with_unfolding_all rfl, rfl, rfl, rfl, ?_⟩,
    ⟨numberStruct "_v" [], _, _, by with_unfolding_all rfl, rfl, rfl, rfl, ?_⟩⟩ <;> decide

end Code
end StructBridge
