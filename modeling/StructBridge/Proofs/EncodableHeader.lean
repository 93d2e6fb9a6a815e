import StructBridge.Proofs.Alphabet
import StructBridge.Proofs.HeaderParts
import StructBridge.Proofs.Reading
import StructBridge.Proofs.TypeGrammar

/-!
Headers that have an encoding. A literal always has one, since a surrogate is escaped in it, so only
the names of a model that are texts matter; where none of these holds a surrogate that stands alone
and the comment holds none, the header holds none.
-/
namespace StructBridge
open Schema Code Text Command

theorem characters_map (cs : List Char) : Over IsCharacter (cs.map .char) := by
  intro c member
  obtain ⟨x, _, rfl⟩ := List.mem_map.mp member
  exact Option.some_ne_none x

theorem characters_ofString (s : String) : Over IsCharacter (ofString s) := characters_map s.toList

namespace Json

mutual

/-- The texts inside a value, its keys among them. -/
def texts : Json → List Text
  | str t => [t]
  | arr items => itemTexts items
  | obj fields => fieldTexts fields
  | _ => []

def itemTexts : List Json → List Text
  | [] => []
  | v :: rest => texts v ++ itemTexts rest

def fieldTexts : List (Text × Json) → List Text
  | [] => []
  | (key, v) :: rest => key :: texts v ++ fieldTexts rest

end

/-- A value in which no surrogate stands alone. -/
def Encodable (v : Json) : Prop := ∀ t ∈ texts v, Over IsCharacter t

instance (v : Json) : Decidable v.Encodable :=
  inferInstanceAs (Decidable (∀ t ∈ texts v, ∀ c ∈ t, c.char? ≠ none))

theorem texts_of_item {v : Json} {items : List Json} (member : v ∈ items) :
    texts v ⊆ itemTexts items := by
  induction items with
  | nil => cases member
  | cons first rest ih =>
    rcases List.mem_cons.mp member with rfl | later
    · exact List.subset_append_left _ _
    · exact List.Subset.trans (ih later) (List.subset_append_right _ _)

theorem texts_of_field {key : Text} {v : Json} {fields : List (Text × Json)}
    (found : fields.lookup key = some v) : texts v ⊆ fieldTexts fields := by
  induction fields with
  | nil => cases found
  | cons field rest ih =>
    obtain ⟨other, w⟩ := field
    rw [List.lookup_cons] at found
    split at found
    · obtain rfl := Option.some.inj found
      exact List.Subset.trans (List.subset_append_left _ _) (List.subset_cons_self _ _)
    · exact List.Subset.trans (ih found) (List.subset_append_right (other :: texts w) _)

theorem Encodable.field {v w : Json} {key : Text} (encodable : v.Encodable)
    (found : v.field? key = some w) : w.Encodable := by
  cases v with
  | obj fields => exact fun t member => encodable t (texts_of_field found member)
  | _ => cases found

theorem Encodable.fieldD {v missing : Json} (encodable : v.Encodable) (key : Text)
    (other : missing.Encodable) : (v.fieldD key missing).Encodable := by
  unfold Json.fieldD
  cases found : v.field? key with
  | none => exact other
  | some w => exact encodable.field found

theorem encodable_null : Encodable .null := nofun

theorem encodable_str {t : Text} (characters : Over IsCharacter t) : Encodable (.str t) :=
  List.forall_mem_singleton.mpr characters

theorem quotedPoint_characters {quote c : CodePoint} (delimiter : IsCharacter quote) :
    Over IsCharacter (quotedPoint quote c) := by
  unfold quotedPoint
  split
  · rename_i special
    have itself : IsCharacter c := by
      rcases special with rfl | rfl
      · exact delimiter
      · exact Option.some_ne_none _
    exact over_cons.mpr ⟨Option.some_ne_none _, over_cons.mpr ⟨itself, over_nil⟩⟩
  split
  · exact characters_ofString _
  split
  · exact characters_ofString _
  split
  · exact characters_ofString _
  split
  · rename_i printable
    cases c with
    | char c => exact over_cons.mpr ⟨Option.some_ne_none _, over_nil⟩
    | surrogate i =>
      rw [isPrintable_surrogate] at printable
      cases printable
  split
  · exact over_append.mpr ⟨characters_ofString _, characters_map _⟩
  split
  · exact over_append.mpr ⟨characters_ofString _, characters_map _⟩
  · exact over_append.mpr ⟨characters_ofString _, characters_map _⟩

theorem quoted_characters (t : Text) : Over IsCharacter (quoted t) := by
  have delimiter : IsCharacter (quoteFor t) := by
    unfold quoteFor
    split <;> exact Option.some_ne_none _
  have points : Over IsCharacter (t.flatMap (quotedPoint (quoteFor t))) := by
    intro u member
    obtain ⟨c, _, written⟩ := List.mem_flatMap.mp member
    exact quotedPoint_characters delimiter u written
  have last := over_cons.mpr ⟨delimiter, over_nil⟩
  exact over_append.mpr ⟨over_cons.mpr ⟨delimiter, points⟩, last⟩

theorem join_characters {ts : List Text} (each : ∀ t ∈ ts, Over IsCharacter t) :
    Over IsCharacter (List.intercalate ", " ts) :=
  over_intercalate (characters_ofString ", ") each

mutual

/-- A literal holds no surrogate, whatever the value. -/
theorem literal_characters : (v : Json) → Over IsCharacter (literal v)
  | .null => characters_ofString _
  | .bool b => by cases b <;> exact characters_ofString _
  | .int n => characters_ofString _
  | .float x => characters_ofString _
  | .str t => quoted_characters t
  | .arr items => over_append.mpr ⟨over_append.mpr ⟨characters_ofString _,
      join_characters (literals_characters items)⟩, characters_ofString _⟩
  | .obj fields => over_append.mpr ⟨over_append.mpr ⟨characters_ofString _,
      join_characters (fieldLiterals_characters fields)⟩, characters_ofString _⟩

theorem literals_characters : (items : List Json) → ∀ t ∈ literals items, Over IsCharacter t
  | [] => nofun
  | v :: rest => List.forall_mem_cons.mpr ⟨literal_characters v, literals_characters rest⟩

theorem fieldLiterals_characters : (fields : List (Text × Json)) →
    ∀ t ∈ fieldLiterals fields, Over IsCharacter t
  | [] => nofun
  | (key, v) :: rest =>
    have key := over_append.mpr ⟨quoted_characters key, characters_ofString ": "⟩
    List.forall_mem_cons.mpr
      ⟨over_append.mpr ⟨key, literal_characters v⟩, fieldLiterals_characters rest⟩

end

theorem Encodable.name {v : Json} (encodable : v.Encodable) : NameOver IsCharacter v := by
  unfold NameOver
  cases v with
  | str t => exact encodable t List.mem_cons_self
  | _ => exact literal_characters _

end Json

namespace Schema

theorem refers_of_denotes {v : Json} {t : FieldType} (denoted : Denotes v t)
    (encodable : v.Encodable) : t.Refers (NameOver IsCharacter) := by
  induction denoted with
  | leaf kind tagged => trivial
  | reserved tagged => trivial
  | nullable tagged inside denoted ih => exact ih (encodable.field inside)
  | untypedArray tagged absent => trivial
  | array tagged inside denoted ih => exact ih (encodable.field inside)
  | named tagged given present => exact (encodable.field given).name

theorem encodable_items {key : Text} {v : Json} {items : List Json} (encodable : v.Encodable)
    (listed : v.fieldD key (.arr []) = .arr items) : ∀ item ∈ items, item.Encodable := by
  have empty : Json.Encodable (.arr []) := nofun
  have list := encodable.fieldD key empty
  rw [listed] at list
  exact fun item member t inside => list t (Json.texts_of_item member inside)

theorem Property.ofJson_over {v : Json} {p : Property} (encodable : v.Encodable)
    (run : Property.ofJson v = .ok p) :
    NameOver IsCharacter p.name ∧ p.type.Refers (NameOver IsCharacter) := by
  obtain ⟨_, named, _, _, type, given, read⟩ := Property.ofJson_ok_iff.mp run
  have name := (encodable.fieldD "name" Json.encodable_null).name
  rw [← named] at name
  exact ⟨name, refers_of_denotes (FieldType.ofJson_ok_iff.mp read) (encodable.field given)⟩

theorem Struct.ofJson_over {v : Json} {s : Struct} (encodable : v.Encodable)
    (run : Struct.ofJson v = .ok s) : StructNames (NameOver IsCharacter) s := by
  obtain ⟨_, _, named, _, _, items, listed, each⟩ := Struct.ofJson_ok_iff.mp run
  have name := (encodable.fieldD "name" Json.encodable_null).name
  rw [← named] at name
  refine ⟨name, ?_⟩
  intro p member
  obtain ⟨item, among, made⟩ := members_of_forall₂ each p member
  exact Property.ofJson_over (encodable_items encodable listed item among) made

theorem Module.ofJson_over {v nameGiven : Json} {m : Module} (encodable : v.Encodable)
    (given : nameGiven.Encodable) (run : Module.ofJson v nameGiven = .ok m) :
    ModuleNames (NameOver IsCharacter) m := by
  obtain ⟨_, named, _, items, listed, each⟩ := Module.ofJson_ok_iff.mp run
  have own := encodable.fieldD "moduleName" Json.encodable_null
  have name : m.name.Encodable := by
    rw [named]
    split
    · exact given
    · exact own
  refine ⟨name.name, ?_⟩
  intro s member
  obtain ⟨item, among, made⟩ := members_of_forall₂ each s member
  exact Struct.ofJson_over (encodable_items encodable listed item among) made

end Schema

section Header

variable {style : OptionalStyle} {moduleName : Text}

theorem declaration_characters {a : Accessor} (inside : AccessorOver IsCharacter style a) :
    Over IsCharacter (a.declaration style) := by
  have padded := over_paddedType characterAlphabet inside
  simp only [Accessor.declaration, over_append, padded, inside.name, characters_ofString, and_self]

theorem definition_characters {a : Accessor} {struct : Text}
    (inside : AccessorOver IsCharacter style a) (named : Over IsCharacter struct) :
    Over IsCharacter (a.definition style struct) := by
  have padded := over_paddedType characterAlphabet inside
  simp only [Accessor.definition, over_append, padded, inside.name, inside.key, inside.conversion,
    named, characters_ofString, and_self]

structure CodeCharacters (code : StructCode) : Prop where
  declaration : Over IsCharacter code.declaration
  methods : Over IsCharacter code.methods

theorem ofRegular_characters {s : Struct} {code : StructCode}
    (module : Over IsCharacter moduleName) (inside : StructNames (NameOver IsCharacter) s)
    (made : StructCode.ofRegular (.standard style) moduleName s = .ok code) :
    CodeCharacters code := by
  obtain ⟨name, accessors, capitalized, coded, declaration, methods⟩ := ofRegular_ok made
  have letters := characterAlphabet.toAlphabet
  have named := over_capitalized letters inside.name capitalized
  have full := over_qualified letters module named
  have each := accessors_over characterAlphabet module inside.properties coded
  constructor
  · have declarations : Over IsCharacter
        (List.intercalate "\n      " (accessors.map (·.declaration style))) := by
      apply over_intercalate (characters_ofString _)
      intro t member
      obtain ⟨a, among, rfl⟩ := List.mem_map.mp member
      exact declaration_characters (each a among)
    rw [declaration]
    unfold declarationText
    simp only [over_append, module, named, characters_ofString, and_true, true_and]
    exact declarations
  · rw [methods]
    apply over_intercalate (characters_ofString _)
    intro t member
    obtain ⟨a, among, rfl⟩ := List.mem_map.mp member
    exact definition_characters (each a among) full

theorem bodyText_characters {codes : List StructCode} (each : ∀ code ∈ codes, CodeCharacters code) :
    Over IsCharacter (bodyText (sections codes)) := by
  have parts : ∀ t ∈ sections codes, Over IsCharacter t := by
    intro t member
    rcases List.mem_append.mp member with declared | defined
    · obtain ⟨code, among, rfl⟩ := List.mem_map.mp declared
      exact (each code among).declaration
    · obtain ⟨code, among, rfl⟩ := List.mem_map.mp (List.mem_filter.mp defined).1
      exact (each code among).methods
  have joined := over_intercalate (characters_ofString "\n\n") parts
  unfold bodyText
  split
  · exact characters_ofString _
  · simp only [over_append, joined, characters_ofString, and_self]

theorem header_characters {g : Generator} {invocation : Option Invocation} {content : Text}
    (names : ModuleNames (NameOver IsCharacter) g.module)
    (comment : Over IsCharacter (g.comment invocation))
    (made : g.header invocation = .ok content) : Over IsCharacter content := by
  obtain ⟨structs, style, codes, _, within, _, coded, rfl⟩ := header_ok made
  have each : ∀ code ∈ codes, CodeCharacters code := by
    intro code member
    obtain ⟨s, among, made⟩ := members_of_mapM coded code member
    exact ofRegular_characters names.name (names.structs s (within among)) made
  have body := bodyText_characters each
  have line : Over IsCharacter (commentText (g.comment invocation)) := by
    unfold commentText
    split
    · exact characters_ofString _
    · exact over_append.mpr ⟨comment, characters_ofString _⟩
  have imports : Over IsCharacter ((requiredImports style).flatMap importText) := by
    have optional : Over IsCharacter style.importName := by
      cases style <;> exact characters_ofString _
    simp only [requiredImports, List.flatMap_cons, List.flatMap_nil, importText, over_append,
      over_nil, optional, characters_ofString, and_self]
  simp only [headerText, opening, closing, over_append, line, body, imports, importText,
    characters_ofString, and_self]

end Header
end StructBridge
