import StructBridge.Proofs.Traversal
import StructBridge.Selection

/-!
The structs that settings select. With lists of texts for settings the selection never fails, and it
is a plain expression of filters; under any settings it takes structs of the module alone.
-/
namespace StructBridge
open Schema

variable {setting : Except Misuse Json} {structs kept : List Struct}

def unnamed (names : List Text) (structs : List Struct) : List Struct :=
  structs.filter fun s => !(names.map Json.str).any s.name.same

theorem dropMentioned_list (names : List Text) (structs : List Struct) :
    dropMentioned (.ok (.arr (names.map .str))) structs = .ok (unnamed names structs) := by
  induction structs with
  | nil => rfl
  | cons s rest ih =>
    change (do
      let others ← dropMentioned (.ok (.arr (names.map .str))) rest
      return if (names.map Json.str).any s.name.same then others else s :: others) = _
    simp only [ih, ok_bind, unnamed, List.filter_cons]
    cases (names.map Json.str).any s.name.same <;> rfl

theorem dropMentioned_sublist (run : dropMentioned setting structs = .ok kept) :
    kept.Sublist structs := by
  induction structs generalizing kept with
  | nil =>
    obtain rfl : kept = [] := (Except.ok.inj run).symm
    exact .slnil
  | cons s rest ih =>
    obtain ⟨value, _, run⟩ := ok_of_bind run
    obtain ⟨named, _, run⟩ := ok_of_bind run
    obtain ⟨others, later, run⟩ := ok_of_bind run
    have sub := ih later
    cases named with
    | true =>
      obtain rfl : kept = others := (Except.ok.inj run).symm
      exact sub.cons s
    | false =>
      obtain rfl : kept = s :: others := (Except.ok.inj run).symm
      exact sub.cons_cons s

theorem requireKeys_of_keys {names : List Json} (keys : ∀ name ∈ names, name.isKey = true) :
    requireKeys names = .ok () := by
  have none : names.find? (fun name => !name.isKey) = none := by
    simpa [List.find?_eq_none] using keys
  rw [requireKeys, none]

theorem lastNamed_mem {name : Json} {s : Struct} (found : lastNamed? structs name = some s) :
    s ∈ structs := by
  simpa using List.mem_of_find?_eq_some found

theorem selectStructs_subset {config : Config} {selected : List Struct}
    (run : selectStructs config structs = .ok selected) : selected ⊆ structs := by
  obtain ⟨kept, dropped, run⟩ := ok_of_bind run
  obtain ⟨_, _, run⟩ := ok_of_bind run
  obtain ⟨order, _, run⟩ := ok_of_bind run
  obtain ⟨names, _, run⟩ := ok_of_bind run
  obtain ⟨_, _, run⟩ := ok_of_bind run
  obtain ⟨others, unlisted, run⟩ := ok_of_bind run
  obtain rfl := (Except.ok.inj run).symm
  have sub := dropMentioned_sublist dropped
  intro s member
  rcases List.mem_append.mp member with listed | member
  · obtain ⟨name, _, found⟩ := List.mem_filterMap.mp listed
    exact sub.subset (lastNamed_mem found)
  · exact sub.subset ((dropMentioned_sublist unlisted).subset member)

/-- The selection when both settings are lists of texts. -/
theorem selectStructs_lists {config : Config} {ignored ordered : List Text}
    (ignoring : config.ignoreStructs = some (.arr (ignored.map .str)))
    (ordering : config.orderStructs = some (.arr (ordered.map .str)))
    (keys : ∀ s ∈ structs, s.name.isKey = true) :
    selectStructs config structs = .ok
      ((firstMentions (ordered.map .str)).filterMap (lastNamed? (unnamed ignored structs)) ++
        unnamed ordered (unnamed ignored structs)) := by
  have keptKeys : requireKeys ((unnamed ignored structs).map (·.name)) = .ok () := by
    apply requireKeys_of_keys
    intro name member
    obtain ⟨s, among, rfl⟩ := List.mem_map.mp member
    exact keys s (List.mem_filter.mp among).1
  have orderKeys : requireKeys (ordered.map .str) = .ok () := by
    apply requireKeys_of_keys
    intro name member
    obtain ⟨t, _, rfl⟩ := List.mem_map.mp member
    rfl
  unfold selectStructs
  rw [ignoring, ordering]
  simp only [Config.require, dropMentioned_list, mentioned, ok_bind, keptKeys, orderKeys]
  rfl

end StructBridge
