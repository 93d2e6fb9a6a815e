import StructBridge.Proofs.Numerals
import StructBridge.Proofs.Reading
import StructBridge.Proofs.TypeGrammar
import StructBridge.Text.Search

/-!
Where the faults of a model lie. The path of a fault leads, key by key and index by index, to a value
that is there, except for the name that a module lacks. A fault inside of a struct is the fault of that
struct alone: the structs before it can be read, and those after it are not looked at. Where a reading
starts tells only how its paths begin.
-/
namespace StructBridge

namespace Json

/-- What an object has under a key, or a list at the index that a numeral stands for. -/
def part? (v : Json) (part : Text) : Option Json :=
  match v with
  | arr items =>
    ((List.range items.length).find? fun i : Nat => Text.ofString (toString i) = part).bind (items[·]?)
  | _ => v.field? part

def follow? : Json → List Text → Option Json
  | v, [] => some v
  | v, part :: rest => (v.part? part).bind (·.follow? rest)

/-- The value that a path leads to from the root of a document. -/
def at? (root : Json) (path : Text) : Option Json :=
  match Text.splitAt (.char '/') path with
  | start :: parts => if start = "#" then root.follow? parts else none
  | [] => none

theorem part_key {v w : Json} {name : Text} (found : v.field? name = some w) :
    v.part? name = some w := by
  cases v with
  | obj fields => exact found
  | _ => cases found

theorem part_index {items : List Json} {i : Nat} {w : Json} (found : items[i]? = some w) :
    (arr items).part? (toString i : String) = some w := by
  obtain ⟨inside, _⟩ := List.getElem?_eq_some_iff.mp found
  have first : (List.range items.length).find?
      (fun j : Nat => Text.ofString (toString j) = Text.ofString (toString i)) = some i := by
    rw [List.find?_range_eq_some]
    refine ⟨decide_eq_true rfl, List.mem_range.mpr inside, ?_⟩
    intro j lower
    have other : Text.ofString (toString j) ≠ Text.ofString (toString i) :=
      fun same => Nat.ne_of_lt lower (Text.numeral_nat_injective same)
    rw [decide_eq_false other]
    rfl
  rw [part?, first]
  exact found

end Json

namespace Schema

def Step.part : Step → Text
  | key name => name
  | index i => Text.ofString (toString i)

theorem Step.text_eq (step : Step) : step.text = .char '/' :: step.part := by
  cases step <;> rfl

/-- The keys and indices that lead to a part of a value. -/
inductive Reaches : Json → List Step → Prop where
  | here (v : Json) : Reaches v []
  | key {v w : Json} {name : Text} {trail : List Step} (plain : .char '/' ∉ name)
      (found : v.field? name = some w) (further : Reaches w trail) : Reaches v (.key name :: trail)
  | index {items : List Json} {i : Nat} {w : Json} {trail : List Step} (found : items[i]? = some w)
      (further : Reaches w trail) : Reaches (.arr items) (.index i :: trail)

theorem Reaches.plain {v : Json} {trail : List Step} (reaches : Reaches v trail) :
    ∀ step ∈ trail, .char '/' ∉ step.part := by
  induction reaches with
  | here v => simp
  | key plain _ _ ih => exact List.forall_mem_cons.mpr ⟨plain, ih⟩
  | index _ _ ih => exact List.forall_mem_cons.mpr ⟨Text.slash_not_mem_numeral _, ih⟩

theorem split_pathText {start : Text} {trail : List Step} (clear : .char '/' ∉ start)
    (plain : ∀ step ∈ trail, .char '/' ∉ step.part) :
    Text.splitAt (.char '/') (pathText start trail) = start :: trail.map Step.part := by
  induction trail generalizing start with
  | nil =>
    rw [pathText, List.flatMap_nil, List.append_nil]
    exact Text.splitAt_absent clear
  | cons step rest ih =>
    obtain ⟨here, later⟩ := List.forall_mem_cons.mp plain
    have next : pathText start (step :: rest) = start ++ .char '/' :: pathText step.part rest := by
      rw [pathText, List.flatMap_cons, Step.text_eq]
      rfl
    rw [next, Text.splitAt_append clear, ih here later]
    rfl

theorem Reaches.follow {v : Json} {trail : List Step} (reaches : Reaches v trail) :
    ∃ w, v.follow? (trail.map Step.part) = some w := by
  induction reaches with
  | here v => exact ⟨v, rfl⟩
  | key _ found _ ih =>
    rw [List.map_cons, Json.follow?, Step.part, Json.part_key found]
    exact ih
  | index found _ ih =>
    rw [List.map_cons, Json.follow?, Step.part, Json.part_index found]
    exact ih

theorem root_plain : .char '/' ∉ Text.ofString "#" := by decide

theorem Reaches.leads {root : Json} {trail : List Step} (reaches : Reaches root trail) :
    ∃ w, root.at? (pathText "#" trail) = some w := by
  rw [Json.at?, split_pathText root_plain reaches.plain]
  exact reaches.follow

/-! ### Faults within the value that is read -/

/-- A fault that lies at a part of a value, or the misuse of a part as a key. -/
def ReadFault.Within (v : Json) : ReadFault → Prop
  | .wrong _ trail => Reaches v trail
  | .misuse use => ∃ part, use = .unkeyable part

def FaultsWithin {α : Type} (v : Json) (r : Read α) : Prop :=
  ∀ fault, r = .error fault → fault.Within v

section Within

variable {α β : Type} {v w : Json} {r : Read α}

theorem faultsWithin_ok (a : α) : FaultsWithin v (.ok a : Read α) := nofun

theorem faultsWithin_wrong (v : Json) (cause : SchemaCause) :
    FaultsWithin v (wrong cause : Read α) := by
  rintro _ ⟨⟩
  exact .here v

theorem faultsWithin_misuse (part : Json) :
    FaultsWithin v (.error (.misuse (.unkeyable part)) : Read α) := by
  rintro _ ⟨⟩
  exact ⟨part, rfl⟩

theorem FaultsWithin.bind {next : α → Read β} (first : FaultsWithin v r)
    (later : ∀ a, r = .ok a → FaultsWithin v (next a)) : FaultsWithin v (r >>= next) := by
  cases r with
  | ok a => exact later a rfl
  | error fault =>
    rintro _ ⟨⟩
    exact first fault rfl

theorem FaultsWithin.map {f : α → β} (first : FaultsWithin v r) : FaultsWithin v (r.map f) := by
  cases r with
  | ok a => nofun
  | error fault =>
    rintro _ ⟨⟩
    exact first fault rfl

theorem ReadFault.Within.under {step : Step} {fault : ReadFault} (within : fault.Within w)
    (enter : ∀ trail, Reaches w trail → Reaches v (step :: trail)) : (fault.under step).Within v := by
  cases fault with
  | wrong cause trail => exact enter trail within
  | misuse use => exact within

theorem FaultsWithin.under {step : Step} (first : FaultsWithin w r)
    (enter : ∀ trail, Reaches w trail → Reaches v (step :: trail)) :
    FaultsWithin v (under step r) := by
  cases r with
  | ok a => nofun
  | error fault =>
    rintro _ ⟨⟩
    exact (first fault rfl).under enter

end Within

theorem FieldType.ofJson_within (v : Json) : FaultsWithin v (FieldType.ofJson v) := by
  have wrapper : .char '/' ∉ nullableKey := by decide
  have array : .char '/' ∉ elementKey := by decide
  fun_induction FieldType.ofJson v with
  | case1 v | case4 v | case9 v | case10 v | case11 v => exact faultsWithin_wrong v _
  | case2 | case3 | case6 | case8 => exact faultsWithin_ok _
  | case5 v inner inside _ _ _ ih =>
    exact (ih.under fun _ => .key wrapper (field_of_given inside)).map
  | case7 v element inside _ _ _ _ ih =>
    exact (ih.under fun _ => .key array (field_of_given inside)).map
  | case12 v tag => exact faultsWithin_misuse tag

/-- A field that is not what is taken in its place is there. -/
theorem field_of_ne {v : Json} (key : Text) (missing : Json) (other : v.fieldD key missing ≠ missing) :
    v.field? key = some (v.fieldD key missing) := by
  unfold Json.fieldD at other ⊢
  cases found : v.field? key with
  | none =>
    rw [found] at other
    exact absurd rfl other
  | some w => rfl

theorem Property.ofJson_within (v : Json) : FaultsWithin v (Property.ofJson v) := by
  have typed : .char '/' ∉ Text.ofString "typeAnnotation" := by decide
  have flagged : .char '/' ∉ Text.ofString "optional" := by decide
  unfold Property.ofJson
  split
  · exact faultsWithin_wrong v _
  split
  · exact faultsWithin_wrong v _
  split
  · exact faultsWithin_wrong v _
  · rename_i type optional given _
    have inside := (FieldType.ofJson_within type).under fun _ => Reaches.key typed given
    exact inside.bind fun _ _ => faultsWithin_ok _
  · rename_i other
    have present := field_of_ne "optional" (.bool false) (other false)
    exact (faultsWithin_wrong _ _).under fun _ => .key flagged present

/-! ### Faults in lists -/

section Lists

variable {α : Type} {read : Json → Read α} {key : Text} {notList : SchemaCause} {v : Json}
  {items : List Json}

/-- The first item that cannot be read stops the reading of a list, whatever comes after it. -/
theorem readEach_stops {before : List Json} {item : Json} {inner : ReadFault} (i : Nat)
    (earlier : ∀ u ∈ before, ∃ a, read u = .ok a) (stopped : read item = .error inner)
    (after : List Json) :
    readEach read i (before ++ item :: after) =
      .error (inner.under (.index (i + before.length))) := by
  induction before generalizing i with
  | nil =>
    rw [List.nil_append, readEach, stopped]
    rfl
  | cons u rest ih =>
    obtain ⟨⟨a, first⟩, others⟩ := List.forall_mem_cons.mp earlier
    rw [List.cons_append, readEach, first, ih (i + 1) others, List.length_cons, Nat.add_assoc,
      Nat.add_comm 1]
    rfl

theorem first_of_readEach {i : Nat} {fault : ReadFault}
    (stopped : readEach read i items = .error fault) :
    ∃ before item after inner, items = before ++ item :: after ∧
      (∀ u ∈ before, ∃ a, read u = .ok a) ∧ read item = .error inner ∧
      fault = inner.under (.index (i + before.length)) := by
  induction items generalizing i with
  | nil => cases stopped
  | cons v rest ih =>
    rcases error_of_bind stopped with here | ⟨a, here, stopped⟩
    · obtain ⟨inner, first, rfl⟩ := error_of_mapError here
      exact ⟨[], v, rest, inner, rfl, by simp, first, rfl⟩
    rcases error_of_bind stopped with later | ⟨others, _, done⟩
    · obtain ⟨before, item, after, inner, rfl, earlier, stops, rfl⟩ := ih later
      refine ⟨v :: before, item, after, inner, rfl, ?_, stops, ?_⟩
      · exact List.forall_mem_cons.mpr ⟨⟨a, ok_of_mapError here⟩, earlier⟩
      · rw [List.length_cons, Nat.add_assoc, Nat.add_comm 1]
    · cases done

theorem listUnder_listed (listed : v.field? key = some (.arr items)) :
    listUnder key notList v = .ok items := by
  rw [listUnder, Json.fieldD, listed]
  rfl

theorem listed_of_listUnder (run : listUnder key notList v = .ok items) (nonempty : items ≠ []) :
    v.field? key = some (.arr items) := by
  unfold listUnder at run
  split at run
  · rename_i found given
    obtain rfl := Except.ok.inj run
    have present := field_of_ne (v := v) key (.arr [])
    rw [given] at present
    exact present fun same => nonempty (Json.arr.inj same)
  · cases run

theorem listUnder_error {fault : ReadFault} (stopped : listUnder key notList v = .error fault) :
    fault = .wrong notList [.key key] ∧ ∃ w, v.field? key = some w := by
  unfold listUnder at stopped
  split at stopped
  · cases stopped
  · rename_i other
    exact ⟨(Except.error.inj stopped).symm, _, field_of_ne key (.arr []) (other [])⟩

theorem listUnder_within (plain : .char '/' ∉ key) : FaultsWithin v (listUnder key notList v) := by
  intro fault stopped
  obtain ⟨rfl, w, found⟩ := listUnder_error stopped
  exact .key plain found (.here w)

/-- The faults of the items lie in the list and so in what has the list. -/
theorem readUnder_within (plain : .char '/' ∉ key) (run : listUnder key notList v = .ok items)
    (each : ∀ item, FaultsWithin item (read item)) :
    FaultsWithin v (under (.key key) (readEach read 0 items)) := by
  intro fault stopped
  obtain ⟨inside, failed, rfl⟩ := error_of_mapError stopped
  obtain ⟨before, item, after, inner, rfl, _, stops, rfl⟩ := first_of_readEach failed
  have listed := listed_of_listUnder run (by simp)
  have found : (before ++ item :: after)[0 + before.length]? = some item := by simp
  exact ((each item inner stops).under fun _ => .index found).under fun _ => .key plain listed

end Lists

theorem accessor_error {name : Json} {use : Misuse} (stopped : Name.accessor name = .error use) :
    use = .unkeyable name := by
  unfold Name.accessor at stopped
  split at stopped
  · cases stopped
  · split at stopped
    · cases stopped
    · exact (Except.error.inj stopped).symm

theorem checkAccessors_error {taken : Accessors} {i : Nat} {properties : List Property}
    {fault : ReadFault} (stopped : checkAccessors taken i properties = .error fault) :
    (∃ part, fault = .misuse (.unkeyable part)) ∨
      ∃ cause k, k < properties.length ∧ fault = .wrong cause [.key "properties", .index (i + k)] := by
  induction properties generalizing taken i with
  | nil => cases stopped
  | cons p rest ih =>
    rcases error_of_bind stopped with unused | ⟨accessor, _, stopped⟩
    · obtain ⟨use, misused, rfl⟩ := error_of_mapError unused
      obtain rfl := accessor_error misused
      exact .inl ⟨p.name, rfl⟩
    · split at stopped
      · exact .inr ⟨_, 0, Nat.succ_pos _, (Except.error.inj stopped).symm⟩
      · rcases ih stopped with misused | ⟨cause, k, inside, rfl⟩
        · exact .inl misused
        · refine .inr ⟨cause, k + 1, Nat.succ_lt_succ inside, ?_⟩
          rw [Nat.add_assoc, Nat.add_comm 1]

theorem Struct.ofJson_within (v : Json) : FaultsWithin v (Struct.ofJson v) := by
  have plain : .char '/' ∉ Text.ofString "properties" := by decide
  unfold Struct.ofJson
  split
  · exact faultsWithin_wrong v _
  split
  · exact faultsWithin_wrong v _
  refine (listUnder_within plain).bind fun items run => ?_
  refine (readUnder_within plain run Property.ofJson_within).bind fun properties read => ?_
  have checked : FaultsWithin v (checkAccessors [] 0 properties) := by
    intro fault stopped
    rcases checkAccessors_error stopped with misused | ⟨cause, k, inside, rfl⟩
    · obtain ⟨part, rfl⟩ := misused
      exact ⟨part, rfl⟩
    · rw [← (readEach_ok_iff.mp (ok_of_mapError read)).length_eq] at inside
      have listed := listed_of_listUnder run (List.ne_nil_of_length_pos (Nat.zero_lt_of_lt inside))
      rw [Nat.zero_add]
      exact .key plain listed (.index (List.getElem?_eq_getElem inside) (.here _))
  exact checked.bind fun _ _ => faultsWithin_ok _

/-! ### Faults of a module -/

/-- The name that a module gets. -/
def Module.chosenName (model nameGiven : Json) : Json :=
  if nameGiven.truthy then nameGiven else model.fieldD "moduleName" .null

theorem Module.ofJson_eq (model nameGiven : Json) :
    Module.ofJson model nameGiven =
      if !model.isObject then wrong .modelNotObject
      else if !(chosenName model nameGiven).truthy then
        under (.key "moduleName") (wrong .moduleNameMissing)
      else do
        let items ← listUnder "structs" .structsNotList model
        let structs ← under (.key "structs") (readEach Struct.ofJson 0 items)
        return ⟨chosenName model nameGiven, structs⟩ := rfl

section Module

variable {model nameGiven : Json} {before after : List Json} {item : Json} {inner : ReadFault}

/-- A fault of a struct stops the reading of its module, whatever structs come after it. -/
theorem Module.ofJson_stops (named : (Module.chosenName model nameGiven).truthy = true)
    (listed : model.field? "structs" = some (.arr (before ++ item :: after)))
    (earlier : ∀ u ∈ before, ∃ s, Struct.ofJson u = .ok s)
    (stopped : Struct.ofJson item = .error inner) :
    Module.ofJson model nameGiven =
      .error ((inner.under (.index before.length)).under (.key "structs")) := by
  have object : model.isObject = true := by
    cases model with
    | obj fields => rfl
    | _ => cases listed
  have list : listUnder "structs" .structsNotList model = .ok (before ++ item :: after) :=
    listUnder_listed listed
  rw [Module.ofJson_eq, object, named, list, ok_bind, readEach_stops 0 earlier stopped, Nat.zero_add]
  rfl

/-- The faults that a module has itself and those of its structs. -/
theorem Module.ofJson_error {fault : ReadFault}
    (stopped : Module.ofJson model nameGiven = .error fault) :
    (∃ cause trail, fault = .wrong cause trail ∧ trail.length ≤ 1 ∧
      (trail = [.key "moduleName"] ∨ Reaches model trail)) ∨
    ∃ before item after inner, (Module.chosenName model nameGiven).truthy = true ∧
      model.field? "structs" = some (.arr (before ++ item :: after)) ∧
      (∀ u ∈ before, ∃ s, Struct.ofJson u = .ok s) ∧ Struct.ofJson item = .error inner ∧
      fault = (inner.under (.index before.length)).under (.key "structs") := by
  rw [Module.ofJson_eq] at stopped
  split at stopped
  · obtain rfl := Except.error.inj stopped
    exact .inl ⟨_, [], rfl, Nat.zero_le 1, .inr (.here model)⟩
  split at stopped
  · obtain rfl := Except.error.inj stopped
    exact .inl ⟨_, _, rfl, Nat.le_refl 1, .inl rfl⟩
  rename_i named
  rcases error_of_bind stopped with unlisted | ⟨items, run, stopped⟩
  · obtain ⟨rfl, w, found⟩ := listUnder_error unlisted
    have plain : .char '/' ∉ Text.ofString "structs" := by decide
    exact .inl ⟨_, _, rfl, Nat.le_refl 1, .inr (.key plain found (.here w))⟩
  rcases error_of_bind stopped with unread | ⟨structs, _, done⟩
  · obtain ⟨inside, failed, rfl⟩ := error_of_mapError unread
    obtain ⟨before, item, after, inner, rfl, earlier, stops, rfl⟩ := first_of_readEach failed
    have listed := listed_of_listUnder run (by simp)
    rw [Nat.zero_add]
    exact .inr ⟨before, item, after, inner, by simpa using named, listed, earlier, stops, rfl⟩
  · cases done

/-- A fault deeper than in the module's own keys is that of its first faulty struct. -/
theorem Module.ofJson_wrong {cause : SchemaCause} {trail : List Step}
    (stopped : Module.ofJson model nameGiven = .error (.wrong cause trail)) :
    (trail = [.key "moduleName"] ∨ Reaches model trail) ∧
      (2 ≤ trail.length → ∃ before item after inner,
        (Module.chosenName model nameGiven).truthy = true ∧
        model.field? "structs" = some (.arr (before ++ item :: after)) ∧
        (∀ u ∈ before, ∃ s, Struct.ofJson u = .ok s) ∧
        Struct.ofJson item = .error (.wrong cause inner) ∧
        trail = .key "structs" :: .index before.length :: inner) := by
  rcases Module.ofJson_error stopped with
    ⟨_, _, same, short, place⟩ | ⟨before, item, after, fault, named, listed, earlier, stops, same⟩
  · obtain ⟨rfl, rfl⟩ := ReadFault.wrong.inj same
    exact ⟨place, fun long => absurd long (Nat.not_le.mpr (Nat.lt_succ_of_le short))⟩
  · cases fault with
    | misuse use => cases same
    | wrong _ inner =>
      obtain ⟨rfl, rfl⟩ := ReadFault.wrong.inj same
      have plain : .char '/' ∉ Text.ofString "structs" := by decide
      have found : (before ++ item :: after)[before.length]? = some item := by simp
      have within : Reaches item inner := Struct.ofJson_within item _ stops
      exact ⟨.inr (.key plain listed (.index found within)),
        fun _ => ⟨before, item, after, inner, named, listed, earlier, stops, rfl⟩⟩

end Module

/-! ### Paths -/

section Paths

variable {α : Type} {start : Text} {r : Read α}

theorem startingAt_wrong_iff {cause : SchemaCause} {path : Text} :
    startingAt start r = .error (.schema cause path) ↔
      ∃ trail, r = .error (.wrong cause trail) ∧ path = pathText start trail := by
  constructor
  · intro stopped
    obtain ⟨fault, failed, located⟩ := error_of_mapError stopped
    cases fault with
    | misuse use => cases located
    | wrong other trail =>
      obtain ⟨rfl, rfl⟩ := Fault.schema.inj located
      exact ⟨trail, failed, rfl⟩
  · rintro ⟨trail, rfl, rfl⟩
    rfl

theorem pathText_append (start : Text) (first second : List Step) :
    pathText (pathText start first) second = pathText start (first ++ second) := by
  rw [pathText, pathText, pathText, List.flatMap_append, List.append_assoc]

theorem struct_path (i : Nat) :
    ("#/structs/" ++ toString i : Text) = pathText "#" [.key "structs", .index i] := by
  have base : Text.ofString "#/structs/" =
      Text.ofString "#" ++ (Text.ofString "/" ++ Text.ofString "structs" ++ Text.ofString "/") := rfl
  rw [pathText_item, base]

/-- Whether a path is another one or goes on from it. -/
def LiesUnder (path base : Text) : Prop := path = base ∨ ∃ more, path = base ++ "/" ++ more

theorem split_of_liesUnder {path : Text} {trail : List Step} (clear : .char '/' ∉ start)
    (plain : ∀ step ∈ trail, .char '/' ∉ step.part) (under : LiesUnder path (pathText start trail)) :
    ∃ rest, Text.splitAt (.char '/') path = start :: trail.map Step.part ++ rest := by
  rcases under with rfl | ⟨more, rfl⟩
  · exact ⟨[], by rw [split_pathText clear plain, List.append_nil]⟩
  · have joined : pathText start trail ++ Text.ofString "/" ++ more =
        pathText start trail ++ .char '/' :: more := by
      rw [List.append_assoc]
      rfl
    rw [joined, Text.splitAt_joined, split_pathText clear plain]
    exact ⟨_, rfl⟩

/-- The trail of a path under a struct begins with the way to that struct. -/
theorem parts_of_liesUnder {trail : List Step} {i : Nat}
    (plain : ∀ step ∈ trail, .char '/' ∉ step.part)
    (under : LiesUnder (pathText "#" trail) ("#/structs/" ++ toString i)) :
    ∃ rest, trail.map Step.part = Text.ofString "structs" :: Text.ofString (toString i) :: rest := by
  have structs : ∀ step ∈ [Step.key "structs", .index i], .char '/' ∉ step.part :=
    List.forall_mem_cons.mpr ⟨by decide,
      List.forall_mem_singleton.mpr (Text.slash_not_mem_numeral i)⟩
  rw [struct_path] at under
  obtain ⟨rest, split⟩ := split_of_liesUnder root_plain structs under
  rw [split_pathText root_plain plain] at split
  exact ⟨rest, (List.cons.inj split).2⟩

/-- Readings of one value from two paths: the same node, the same misuse of a part as a key, or faults
that differ in the beginning of their paths alone. -/
inductive CarriedAlike (p q : Text) : Except Fault α → Except Fault α → Prop where
  | node (a : α) : CarriedAlike p q (.ok a) (.ok a)
  | misuse (part : Json) :
      CarriedAlike p q (.error (.misuse (.unkeyable part))) (.error (.misuse (.unkeyable part)))
  | fault {cause : SchemaCause} {suffix words : Text}
      (first : (Fault.schema cause (p ++ suffix)).message = words ++ " (at " ++ (p ++ suffix) ++ ")")
      (second : (Fault.schema cause (q ++ suffix)).message = words ++ " (at " ++ (q ++ suffix) ++ ")") :
      CarriedAlike p q (.error (.schema cause (p ++ suffix))) (.error (.schema cause (q ++ suffix)))

theorem FaultsWithin.carriedAlike {v : Json} {p q : Text} (within : FaultsWithin v r) (from_p : p ≠ [])
    (from_q : q ≠ []) : CarriedAlike p q (startingAt p r) (startingAt q r) := by
  cases r with
  | ok a => exact .node a
  | error fault =>
    cases fault with
    | misuse use =>
      obtain ⟨part, rfl⟩ := within _ rfl
      exact .misuse part
    | wrong cause trail =>
      exact .fault (Fault.schema_message cause (List.append_ne_nil_of_left_ne_nil from_p _))
        (Fault.schema_message cause (List.append_ne_nil_of_left_ne_nil from_q _))

end Paths

/-- The path of a fault leads to a value that is there, or it is that of the missing module name. A
fault under a struct is the one that this struct has on its own; all structs before it can be read, and
those after it do not matter. Types and structs are read from every path alike. -/
theorem first_fault_located {model nameGiven : Json} {cause : SchemaCause} {path : Text}
    (stopped : startingAt "#" (Module.ofJson model nameGiven) = .error (.schema cause path)) :
    (Fault.schema cause path).message = cause.message ++ " (at " ++ path ++ ")" ∧
      (path ≠ "#/moduleName" → ∃ w, model.at? path = some w) ∧
      (∀ i : Nat, LiesUnder path ("#/structs/" ++ toString i) →
        ∃ before item after, before.length = i ∧
          model.field? "structs" = some (.arr (before ++ item :: after)) ∧
          (∀ u ∈ before, ∃ s, ∀ start, startingAt start (Struct.ofJson u) = .ok s) ∧
          startingAt ("#/structs/" ++ toString i) (Struct.ofJson item) = .error (.schema cause path) ∧
          ∀ model' others, model'.field? "moduleName" = model.field? "moduleName" →
            model'.field? "structs" = some (.arr (before ++ item :: others)) →
            startingAt "#" (Module.ofJson model' nameGiven) = .error (.schema cause path)) ∧
      ∀ v p q, p ≠ [] → q ≠ [] →
        CarriedAlike p q (startingAt p (FieldType.ofJson v)) (startingAt q (FieldType.ofJson v)) ∧
          CarriedAlike p q (startingAt p (Struct.ofJson v)) (startingAt q (Struct.ofJson v)) := by
  obtain ⟨trail, failed, rfl⟩ := startingAt_wrong_iff.mp stopped
  obtain ⟨place, deep⟩ := Module.ofJson_wrong failed
  have plain : ∀ step ∈ trail, .char '/' ∉ step.part := by
    rcases place with rfl | reaches
    · exact List.forall_mem_singleton.mpr (by decide)
    · exact reaches.plain
  refine ⟨Fault.schema_message cause (by simp [pathText, Text.ofString]), ?_, ?_, ?_⟩
  · intro other
    rcases place with rfl | reaches
    · exact absurd rfl other
    · exact reaches.leads
  · intro i under
    obtain ⟨rest, parts⟩ := parts_of_liesUnder plain under
    -- the module's own faults have shorter trails
    have long : 2 ≤ trail.length := by
      rw [← List.length_map Step.part, parts]
      exact Nat.le_add_left 2 rest.length
    obtain ⟨before, item, after, inner, named, listed, earlier, stops, rfl⟩ := deep long
    obtain rfl : before.length = i :=
      Text.numeral_nat_injective (List.cons.inj (List.cons.inj parts).2).1
    refine ⟨before, item, after, rfl, listed, ?_, ?_, ?_⟩
    · intro u member
      obtain ⟨s, read⟩ := earlier u member
      exact ⟨s, fun start => startingAt_ok_iff.mpr read⟩
    · rw [struct_path]
      exact startingAt_wrong_iff.mpr
        ⟨inner, stops, (pathText_append "#" [.key "structs", .index before.length] inner).symm⟩
    · intro model' others sameName listed'
      have named' : (Module.chosenName model' nameGiven).truthy = true := by
        rw [Module.chosenName, Json.fieldD, sameName]
        exact named
      rw [Module.ofJson_stops named' listed' earlier stops]
      rfl
  · intro v p q from_p from_q
    exact ⟨(FieldType.ofJson_within v).carriedAlike from_p from_q,
      (Struct.ofJson_within v).carriedAlike from_p from_q⟩

/-- A struct with a list of what no type is. -/
def misspelledList : Json :=
  .obj [("name", .str "pair"), ("properties", .arr [.obj [("name", .str "first"), ("typeAnnotation",
    .obj [("type", .str "ArrayTypeAnnotation"), ("elementType", .obj [("type", .str "Strng")])])]])]

def emptyStruct : Json := .obj [("name", .str "empty")]

/-- Any other structs after a sound one and one with a fault. -/
def misspelledModel (others : List Json) : Json :=
  .obj [("moduleName", .str "Maps"),
    ("structs", .arr ([emptyStruct] ++ misspelledList :: others))]

theorem misspelledList_located :
    (∃ w, (misspelledModel [.null]).at?
        "#/structs/1/properties/0/typeAnnotation/elementType" = some w) ∧
      ∀ others, startingAt "#" (Module.ofJson (misspelledModel others) .null) =
        .error (.schema (.unknownType (.str "Strng"))
          "#/structs/1/properties/0/typeAnnotation/elementType") := by
  have stopped : startingAt "#" (Module.ofJson (misspelledModel [.null]) .null) =
      .error (.schema (.unknownType (.str "Strng"))
        "#/structs/1/properties/0/typeAnnotation/elementType") := by with_unfolding_all rfl
  obtain ⟨_, present, first, _⟩ := first_fault_located stopped
  refine ⟨present (by decide), ?_⟩
  intro others
  obtain ⟨before, item, after, two, listed, _, _, alone⟩ :=
    first 1 (.inr ⟨"properties/0/typeAnnotation/elementType", rfl⟩)
  have items : [emptyStruct] ++ [misspelledList, .null] = before ++ item :: after :=
    Json.arr.inj (Option.some.inj (Eq.trans (by with_unfolding_all rfl) listed))
  obtain ⟨rfl, rest⟩ := List.append_inj items two.symm
  obtain ⟨rfl, _⟩ := List.cons.inj rest
  exact alone (misspelledModel others) others (by with_unfolding_all rfl) (by with_unfolding_all rfl)

end Schema
end StructBridge
