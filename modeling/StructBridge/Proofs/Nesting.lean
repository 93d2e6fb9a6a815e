import StructBridge.Proofs.HeaderParts
import StructBridge.Proofs.NeutralCode

/-!
Every header is well nested, and passes the check before a write, when the names of its module hold
no bracket.
-/
namespace StructBridge
open Schema Code Text Command

variable {style : OptionalStyle} {moduleName : Text}

theorem accessorOf_neutral {p : Property} {a : Accessor} (module : Plain moduleName)
    (name : PlainName p.name) (type : p.type.Refers PlainName)
    (made : accessorOf (.standard style) moduleName p = .ok a) : NeutralAccessor style a := by
  obtain ⟨called, typed, converted, keyed⟩ :=
    plainAlphabet.inherited.accessorOf_ok module name type made
  exact ⟨Plain.neutral called, declared_neutral style typed, conversion_neutral style converted,
    Plain.neutral keyed⟩

/-- The code of a struct is neutral and, in the declaration, starts inside the outer namespace. -/
structure NeutralCode (code : StructCode) : Prop where
  declaration : Neutral code.declaration
  methods : Neutral code.methods
  namespaced : ofString "namespace JS" <+: code.declaration

theorem declarationText_namespaced (moduleName name : Text) (accessors : List Text) :
    ofString "namespace JS" <+: declarationText moduleName name accessors := by
  have first : ofString "namespace JS" <+: ofString "namespace JS \x7b\n" := by
    repeat rw [ofString_literal]
    decide
  unfold declarationText
  simp only [List.append_assoc]
  exact first.trans (List.prefix_append _ _)

theorem ofRegular_namespaced {s : Struct} {code : StructCode}
    (made : StructCode.ofRegular (.standard style) moduleName s = .ok code) :
    ofString "namespace JS" <+: code.declaration := by
  obtain ⟨name, accessors, _, _, declaration, _⟩ := ofRegular_ok made
  rw [declaration]
  exact declarationText_namespaced moduleName name _

theorem ofRegular_neutral {s : Struct} {code : StructCode} (module : Plain moduleName)
    (plain : StructNames PlainName s)
    (made : StructCode.ofRegular (.standard style) moduleName s = .ok code) : NeutralCode code := by
  have namespaced := ofRegular_namespaced made
  obtain ⟨name, accessors, capitalized, coded, declaration, methods⟩ := ofRegular_ok made
  have named : Plain name := over_capitalized plainAlphabet plain.name capitalized
  have full : Plain (Name.qualified moduleName name) := over_qualified plainAlphabet module named
  have each : ∀ a ∈ accessors, NeutralAccessor style a := by
    intro a member
    obtain ⟨p, among, made⟩ := members_of_mapM coded a member
    obtain ⟨name, type⟩ := plain.properties p among
    exact accessorOf_neutral module name type made
  have newline : Neutral "\n" := neutral_literal (by decide)
  refine ⟨?_, ?_, namespaced⟩
  · rw [declaration]
    apply declarationText_neutral module.neutral named.neutral
    intro t member
    obtain ⟨a, among, rfl⟩ := List.mem_map.mp member
    exact declaration_neutral (each a among)
  · rw [methods]
    apply neutral_intercalate newline
    intro t member
    obtain ⟨a, among, rfl⟩ := List.mem_map.mp member
    exact definition_neutral (each a among) full.neutral

theorem bodyText_neutral {codes : List StructCode} (each : ∀ code ∈ codes, NeutralCode code) :
    Neutral (bodyText (sections codes)) := by
  have gap : Neutral "\n\n" := neutral_literal (by decide)
  have newline : Neutral "\n" := neutral_literal (by decide)
  have parts : ∀ t ∈ sections codes, Neutral t := by
    intro t member
    rcases List.mem_append.mp member with declared | defined
    · obtain ⟨code, among, rfl⟩ := List.mem_map.mp declared
      exact (each code among).declaration
    · obtain ⟨code, among, rfl⟩ := List.mem_map.mp (List.mem_filter.mp defined).1
      exact (each code among).methods
  unfold bodyText
  split
  · exact neutral_nil
  · exact (newline.append (neutral_intercalate gap parts)).append newline

def quietComments : List Text :=
  [[], "// Generated by objc_struct_codegen v1.0.0 : " ++ lineText programName none]

theorem comment_quiet {g : Generator} {invocation : Option Invocation}
    (quiet : g.config.addGenerationComment.truthy = false ∨ invocation = none) :
    g.comment invocation ∈ quietComments := by
  unfold Generator.comment
  split
  · rename_i shown
    rcases quiet with off | rfl
    · rw [off] at shown
      cases shown
    · simp [quietComments]
  · exact List.mem_cons_self

theorem emptyHeader_checked : ∀ style ∈ [OptionalStyle.folly, .std], ∀ comment ∈ quietComments,
    WellNested (headerText style [] comment) ∧ rejection? (headerText style [] comment) = none := by
  unfold quietComments headerText rejection? opening commentText importText requiredImports
    OptionalStyle.importName lineText programName bodyText closing
  repeat rw [ofString_literal]
  decide +kernel

theorem opening_imports (style : OptionalStyle) (comment : Text) :
    ofString "#import <Foundation/Foundation.h>" <:+: opening style comment := by
  have line : ofString "#import <Foundation/Foundation.h>" <:+:
      importText "Foundation/Foundation.h" := by
    apply (occursIn_iff _ _).mp
    unfold importText
    repeat rw [ofString_literal]
    decide
  unfold opening
  iterate 9 apply List.infix_append_of_infix_left
  exact List.infix_append_of_infix_right line

theorem infix_intercalate {separator t : Text} {ts : List Text} (member : t ∈ ts) :
    t <:+: List.intercalate separator ts := by
  induction ts with
  | nil => cases member
  | cons first rest ih =>
    cases rest with
    | nil =>
      obtain rfl := List.mem_singleton.mp member
      simp
    | cons second others =>
      rw [List.intercalate_cons_cons]
      rcases List.mem_cons.mp member with rfl | later
      · exact List.infix_append_of_infix_left (List.infix_append_of_infix_left List.infix_rfl)
      · exact List.infix_append_of_infix_right (ih later)

theorem bodyText_namespaced {code : StructCode} {codes : List StructCode}
    (namespaced : ofString "namespace JS" <+: code.declaration) (member : code ∈ codes) :
    ofString "namespace JS" <:+: bodyText (sections codes) := by
  have among : code.declaration ∈ sections codes :=
    List.mem_append_left _ (List.mem_map.mpr ⟨code, member, rfl⟩)
  have present : (sections codes).isEmpty = false := by
    simpa using List.ne_nil_of_mem among
  unfold bodyText
  rw [present]
  apply List.infix_append_of_infix_left
  apply List.infix_append_of_infix_right
  exact namespaced.isInfix.trans (infix_intercalate among)

theorem headerText_imports (style : OptionalStyle) (codes : List StructCode) (comment : Text) :
    ofString "#import <Foundation/Foundation.h>" <:+: headerText style codes comment :=
  List.infix_append_of_infix_left (List.infix_append_of_infix_left
    (List.infix_append_of_infix_left (opening_imports style comment)))

theorem headerText_namespaced {code : StructCode} {codes : List StructCode} (comment : Text)
    (namespaced : ofString "namespace JS" <+: code.declaration) (member : code ∈ codes) :
    ofString "namespace JS" <:+: headerText style codes comment :=
  List.infix_append_of_infix_left (List.infix_append_of_infix_left
    (List.infix_append_of_infix_right (bodyText_namespaced namespaced member)))

/-- What else the check asks of a header with its import. -/
theorem rejection_eq_none_iff {content : Text}
    (imported : ofString "#import <Foundation/Foundation.h>" <:+: content) :
    rejection? content = none ↔
      (¬ofString "struct " <:+: content ∨ ofString "namespace JS" <:+: content) ∧
        content.count (.char '\x7b') = content.count (.char '\x7d') := by
  have found := (occursIn_iff _ _).mpr imported
  unfold rejection?
  rw [← occursIn_iff, ← occursIn_iff, found]
  cases occursIn "struct " content <;> cases occursIn "namespace JS" content <;> simp

theorem headerText_nested {codes : List StructCode} {comment : Text}
    (quiet : comment ∈ quietComments) (each : ∀ code ∈ codes, NeutralCode code) :
    WellNested (headerText style codes comment) ∧
      rejection? (headerText style codes comment) = none := by
  have styled : style ∈ [OptionalStyle.folly, .std] := by cases style <;> simp
  obtain ⟨empty, accepted⟩ := emptyHeader_checked style styled comment quiet
  have body := bodyText_neutral each
  have nested : WellNested (headerText style codes comment) := by
    apply neutral_iff.mp
    apply neutral_of_same empty
    intro inside
    unfold headerText
    have noBody : Neutral (bodyText (sections [])) := neutral_nil
    rw [scan_append, scan_append, scan_append, scan_append, scan_append, scan_append]
    simp only [body _, noBody _]
  refine ⟨nested, ?_⟩
  cases codes with
  | nil => exact accepted
  | cons code rest =>
    have first := (each code List.mem_cons_self).namespaced
    exact (rejection_eq_none_iff (headerText_imports style _ comment)).mpr
      ⟨.inr (headerText_namespaced comment first List.mem_cons_self), nested.braces⟩

theorem structCodes_neutral {g : Generator} {codes : List StructCode}
    (plain : ModuleNames PlainName g.module) (resolved : g.style.resolve = .ok style)
    (made : g.structCodes = .ok codes) : ∀ code ∈ codes, NeutralCode code := by
  rw [g.structCodes_eq, Generator.structCode_resolved resolved] at made
  obtain ⟨structs, selected, made⟩ := ok_of_bind made
  intro code member
  obtain ⟨s, among, made⟩ := members_of_mapM made code member
  have within := selectStructs_subset (ok_of_mapError selected) among
  exact ofRegular_neutral plain.name (plain.structs s within) made

theorem header_well_nested {g : Generator} {invocation : Option Invocation} {content : Text}
    (plain : ModuleNames PlainName g.module)
    (quiet : g.config.addGenerationComment.truthy = false ∨ invocation = none)
    (made : g.header invocation = .ok content) :
    WellNested content ∧ rejection? content = none := by
  obtain ⟨codes, coded, made⟩ := ok_of_bind made
  obtain ⟨style, resolved, made⟩ := ok_of_bind made
  obtain rfl := Except.ok.inj made
  have each := structCodes_neutral plain (ok_of_mapError resolved) coded
  exact headerText_nested (comment_quiet quiet) each

def route : Struct :=
  ⟨.regular, .str "route", [⟨.str "legs", .array (.nullable (.array (.named (.str "leg")))), true⟩]⟩

def maps : Generator := ⟨⟨.str "Maps", [route, ⟨.regular, .str "leg", []⟩]⟩, .style .std, .standard⟩

theorem maps_well_nested :
    ModuleNames PlainName maps.module ∧ ∃ content, maps.header none = .ok content ∧
      WellNested content ∧ rejection? content = none := by
  have module : Plain "Maps" := by decide
  have routeName : Plain "route" := by decide
  have legs : Plain "legs" := by decide
  have leg : Plain "leg" := by decide
  have plain : ModuleNames PlainName maps.module := by
    refine ⟨module, ?_⟩
    intro s member
    simp only [maps, List.mem_cons, List.not_mem_nil, or_false] at member
    rcases member with rfl | rfl
    · refine ⟨routeName, ?_⟩
      intro p among
      obtain rfl := List.mem_singleton.mp among
      exact ⟨legs, leg⟩
    · exact ⟨leg, fun _ among => nomatch among⟩
  obtain ⟨content, made⟩ : ∃ content, maps.header none = .ok content := ⟨_, rfl⟩
  exact ⟨plain, content, made, header_well_nested plain (.inr rfl) made⟩

end StructBridge
