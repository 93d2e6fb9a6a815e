import StructBridge.Proofs.BlockParameters
import StructBridge.Proofs.Refusal

/-!
Which fault each of the two walks over a type ends in. There is one part of a type at which it cannot
be mapped, if any, and both walks name it. The walk that makes expressions has a fault of its own only
for the outermost part, since it asks for the declared type of an element before it goes into it.
-/
namespace StructBridge
open Schema Code

/-- What cannot be mapped at its own root when it has no wrapper, and the tag that stands for it. -/
inductive Unfit : FieldType → Json → Prop where
  | reserved {name : Json} (other : name ≠ .str "RootTag") : Unfit (.reserved name) name
  | wrapped (inner : FieldType) : Unfit (.nullable inner) (.str "NullableTypeAnnotation")
  | missing : Unfit .missing (.str "NoneType")
  | tagged {kind : Text} {tag : Json} (present : tag.truthy = true) : Unfit (.unknown kind tag) tag
  | untagged {kind : Text} {tag : Json} (empty : tag.truthy = false) :
      Unfit (.unknown kind tag) (.str kind)

/-- The part of a type that cannot be mapped: how many arrays it lies in, and its tag. -/
inductive Offends : FieldType → Nat → Json → Prop where
  | here {t : FieldType} {tag : Json} (unfit : Unfit t.unwrap.1 tag) : Offends t 0 tag
  | inside {t element : FieldType} {levels : Nat} {tag : Json} (typed : t.unwrap.1 = .array element)
      (further : Offends element levels tag) : Offends t (levels + 1) tag

theorem Unfit.offence {t : FieldType} {tag : Json} (unfit : Unfit t tag) :
    bareOffence? t = some tag := by
  cases unfit with
  | reserved other =>
    have unknown : tag.text? ≠ some rootTag := by
      intro same
      cases tag with
      | str name => exact other (congrArg Json.str (Option.some.inj same))
      | _ => cases same
    simp [bareOffence?, FieldType.unwrap, offence?, unknown]
  | wrapped inner => rfl
  | missing => rfl
  | tagged present => simp [bareOffence?, FieldType.unwrap, offence?, present]
  | untagged empty => simp [bareOffence?, FieldType.unwrap, offence?, empty]

theorem Unfit.conversionFault {t : FieldType} {tag : Json} (unfit : Unfit t tag) :
    conversionFault t (.unmappableType tag) = .unmappableValue tag := by
  cases unfit <;> rfl

theorem Offends.offence {t : FieldType} {levels : Nat} {tag : Json} (offends : Offends t levels tag) :
    offence? t = some tag := by
  induction offends with
  | here unfit =>
    rw [← bareOffence_unwrap]
    exact unfit.offence
  | inside typed _ ih =>
    rw [← bareOffence_unwrap, typed]
    exact ih

/-- Only one part of a type offends. -/
theorem Offends.unique {t : FieldType} {levels others : Nat} {tag : Json}
    (offends : Offends t levels tag) {other : Json} (also : Offends t others other) :
    levels = others ∧ tag = other := by
  have sameTag : tag = other := Option.some.inj (offends.offence.symm.trans also.offence)
  refine ⟨?_, sameTag⟩
  clear sameTag
  induction offends generalizing others with
  | here unfit =>
    cases also with
    | here _ => rfl
    | inside typed _ =>
      rw [typed] at unfit
      cases unfit
  | inside typed _ ih =>
    cases also with
    | here unfit =>
      rw [typed] at unfit
      cases unfit
    | inside typed' further =>
      obtain rfl := FieldType.array.inj (typed.symm.trans typed')
      exact congrArg (· + 1) (ih further)

/-- An offence is that of some part. -/
theorem offends_of_offence {t : FieldType} {tag : Json} (offence : bareOffence? t = some tag) :
    Unfit t tag ∨ ∃ element levels, t = .array element ∧ Offends element levels tag := by
  induction t using FieldType.bareInduction with
  | leaf kind => cases offence
  | reserved name =>
    simp only [bareOffence?, FieldType.unwrap, offence?, Bool.false_eq_true, ↓reduceIte] at offence
    split at offence
    · cases offence
    · rename_i unknown
      obtain rfl := Option.some.inj offence
      refine .inl (.reserved ?_)
      rintro rfl
      exact unknown rfl
  | named name => cases offence
  | untypedArray => cases offence
  | array element inner =>
    have below : bareOffence? element.unwrap.1 = some tag := (bareOffence_unwrap element).trans offence
    rcases inner below with unfit | ⟨further, levels, typed, offends⟩
    · exact .inr ⟨element, 0, rfl, .here unfit⟩
    · exact .inr ⟨element, levels + 1, rfl, .inside typed offends⟩
  | nullable inner =>
    obtain rfl := Option.some.inj offence
    exact .inl (.wrapped inner)
  | missing =>
    obtain rfl := Option.some.inj offence
    exact .inl .missing
  | unknown kind tag =>
    obtain rfl := Option.some.inj offence
    split
    · rename_i present
      exact .inl (.tagged present)
    · rename_i empty
      exact .inl (.untagged (by simpa using empty))

theorem offence_none {t : FieldType} (clean : ∀ levels tag, ¬Offends t levels tag) :
    offence? t = none := by
  cases found : offence? t with
  | none => rfl
  | some tag =>
    rw [← bareOffence_unwrap] at found
    rcases offends_of_offence found with unfit | ⟨element, levels, typed, offends⟩
    · exact absurd (.here unfit) (clean 0 tag)
    · exact absurd (.inside typed offends) (clean (levels + 1) tag)

section Walks

variable {naming : Naming} {t : FieldType}

/-- The walk that makes expressions succeeds with the other walk, and fails with it. -/
theorem conversion_follows (naming : Naming) (moduleName : Text) (t : FieldType) (optional : Bool)
    (x : Text) (depth : Int) :
    match declaredType naming moduleName t optional with
    | .ok _ => ∃ e, conversion naming moduleName t x depth optional = .ok e
    | .error fault => conversion naming moduleName t x depth optional =
        .error (conversionFault t.unwrap.1 fault) := by
  -- The typing of expressions speaks of values that are there; the fault is the same for any value.
  have agreed := declared_agrees naming moduleName t optional depth (x := rawValue) (by decide)
  have any : conversion naming moduleName t x depth optional =
      (conversion naming moduleName t rawValue depth optional).map (·.mapUses fun _ => x) :=
    conversion_mapUses (fun _ => x) t optional
  cases declared : declaredType naming moduleName t optional with
  | ok type =>
    rw [declared] at agreed
    obtain ⟨e, converted, _⟩ := agreed
    rw [converted] at any
    exact ⟨_, any⟩
  | error fault =>
    rw [declared] at agreed
    have converted : conversion naming moduleName t rawValue depth optional = _ := agreed
    rw [converted] at any
    exact any

/-- Without an offending part both walks succeed. With one they name it: the outermost part as a type
and as a value, a part inside of arrays as a type in both. -/
theorem walks_name_offender (total : naming.NamesTexts) (texts : TypeNamed t) (moduleName : Text)
    (optional : Bool) (x : Text) (depth : Int) :
    ((∀ levels tag, ¬Offends t levels tag) →
      (∃ type, declaredType naming moduleName t optional = .ok type) ∧
        ∃ e, conversion naming moduleName t x depth optional = .ok e) ∧
    (∀ tag, Offends t 0 tag →
      declaredType naming moduleName t optional = .error (.unmappableType tag) ∧
        conversion naming moduleName t x depth optional = .error (.unmappableValue tag)) ∧
    ∀ levels tag, Offends t (levels + 1) tag →
      declaredType naming moduleName t optional = .error (.unmappableType tag) ∧
        conversion naming moduleName t x depth optional = .error (.unmappableType tag) := by
  have stopped : StoppedBy (typeFault (offence? t)) (declaredType naming moduleName t optional) :=
    declaredType_stopped total texts optional
  have follows := conversion_follows naming moduleName t optional x depth
  have refused {levels : Nat} {tag : Json} (offends : Offends t levels tag) :
      declaredType naming moduleName t optional = .error (.unmappableType tag) := by
    rw [offends.offence] at stopped
    exact stopped
  refine ⟨?_, ?_, ?_⟩
  · intro clean
    rw [offence_none clean] at stopped
    obtain ⟨type, declared⟩ := stopped
    rw [declared] at follows
    exact ⟨⟨type, declared⟩, follows⟩
  · intro tag offends
    have declared := refused offends
    rw [declared] at follows
    refine ⟨declared, follows.trans ?_⟩
    cases offends with
    | here unfit => rw [unfit.conversionFault]
  · intro levels tag offends
    have declared := refused offends
    rw [declared] at follows
    refine ⟨declared, follows.trans ?_⟩
    cases offends with
    | inside typed _ => rw [typed]; rfl

/-- A cell that is wrapped twice. -/
def wrappedCell : FieldType := .nullable (.nullable (.named (.str "cell")))

theorem wrappedCell_named :
    declaredType (.standard .std) "Maps" (.array (.nullable (.array wrappedCell))) true =
        .error (.unmappableType (.str "NullableTypeAnnotation")) ∧
      conversion (.standard .std) "Maps" (.array (.nullable (.array wrappedCell))) "p" (-1) true =
        .error (.unmappableType (.str "NullableTypeAnnotation")) ∧
      conversion (.standard .std) "Maps" wrappedCell "p" 0 false =
        .error (.unmappableValue (.str "NullableTypeAnnotation")) := by
  have named : TypeNamed wrappedCell := ⟨"cell", rfl⟩
  have alone : Offends wrappedCell 0 (.str "NullableTypeAnnotation") := .here (.wrapped _)
  have nested : Offends (.array (.nullable (.array wrappedCell))) 2 (.str "NullableTypeAnnotation") :=
    .inside rfl (.inside rfl alone)
  obtain ⟨_, _, inside⟩ := walks_name_offender (t := .array (.nullable (.array wrappedCell)))
    (standard_namesTexts .std) named "Maps" true "p" (-1)
  obtain ⟨_, outermost, _⟩ := walks_name_offender (standard_namesTexts .std) named "Maps" false "p" 0
  obtain ⟨typed, converted⟩ := inside _ _ nested
  exact ⟨typed, converted, (outermost _ alone).2⟩

end Walks
end StructBridge
