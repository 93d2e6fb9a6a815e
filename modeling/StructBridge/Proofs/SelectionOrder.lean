import Mathlib.Data.List.Nodup
import StructBridge.Generator
import StructBridge.Proofs.Selection

/-!
The order of a selection by lists of texts. The kept structs that no order list names stay as they
stand; before them comes, for each name of the list that a kept struct bears, the last such struct, in
the order of first mention. So a struct is lost exactly when a later one bears its listed name.
-/
namespace StructBridge
open Schema

variable {structs kept : List Struct} {ordered : List Text} {s : Struct} {t : Text}

def bears (t : Text) (s : Struct) : Bool := s.name.text? = some t

def listedIn (names : List Text) (s : Struct) : Bool := names.any (bears · s)

/-- A struct after which no other of its name stands. -/
def IsLast (structs : List Struct) (s : Struct) : Prop :=
  ∃ before after, structs = before ++ s :: after ∧ ∀ s' ∈ after, s'.name ≠ s.name

theorem bears_iff : bears t s = true ↔ s.name = .str t := by
  unfold bears
  cases s.name <;> simp [Json.text?]

theorem listedIn_iff : listedIn ordered s = true ↔ ∃ t ∈ ordered, s.name = .str t := by
  simp only [listedIn, List.any_eq_true, bears_iff]

theorem same_eq_bears (t : Text) (s : Struct) : s.name.same (.str t) = bears t s := by
  unfold bears
  cases s.name with
  | str u => simp [Json.same_str, Json.text?, Bool.beq_eq_decide_eq]
  | _ => simp [Json.same, Json.sameNumber, Json.asInt?, Json.text?]

theorem unnamed_eq (names : List Text) (structs : List Struct) :
    unnamed names structs = structs.filter (!listedIn names ·) := by
  simp only [unnamed, List.any_map, Function.comp_def, same_eq_bears, listedIn]

section Mentions

/-- The texts without repetitions, each at its first place. -/
def firstTexts : List Text → List Text
  | [] => []
  | t :: rest => t :: (firstTexts rest).filter (· ≠ t)

theorem firstMentions_texts (ts : List Text) :
    firstMentions (ts.map .str) = (firstTexts ts).map .str := by
  induction ts with
  | nil => rfl
  | cons t rest ih =>
    have apart : (fun name : Json => !name.same (.str t)) ∘ Json.str = fun u => decide (u ≠ t) := by
      funext u
      simp [Json.same_str, Bool.beq_eq_decide_eq]
    rw [List.map_cons, firstMentions, ih, List.filter_map, apart]
    rfl

theorem mem_firstTexts {ts : List Text} : t ∈ firstTexts ts ↔ t ∈ ts := by
  induction ts with
  | nil => rfl
  | cons u rest ih =>
    simp only [firstTexts, List.mem_cons, List.mem_filter, ih, decide_eq_true_eq]
    by_cases same : t = u
    · simp [same]
    · simp [same]

theorem firstTexts_ordered (ts : List Text) :
    (firstTexts ts).Pairwise fun t u => ts.idxOf t < ts.idxOf u := by
  induction ts with
  | nil => exact .nil
  | cons t rest ih =>
    have shifted {u : Text} (other : u ≠ t) : (t :: rest).idxOf u = rest.idxOf u + 1 :=
      List.idxOf_cons_ne rest (Ne.symm other)
    refine List.pairwise_cons.mpr ⟨?_, ?_⟩
    · intro u member
      have other : u ≠ t := by simpa using (List.mem_filter.mp member).2
      rw [List.idxOf_cons_self, shifted other]
      omega
    · refine (ih.filter _).imp_of_mem ?_
      intro u v first later before
      have other : u ≠ t := by simpa using (List.mem_filter.mp first).2
      have other' : v ≠ t := by simpa using (List.mem_filter.mp later).2
      rw [shifted other, shifted other']
      omega

theorem firstTexts_nodup (ts : List Text) : (firstTexts ts).Nodup :=
  (firstTexts_ordered ts).imp fun before same => by
    rw [same] at before
    omega

theorem firstTexts_filter (keep : Text → Bool) (ts : List Text) :
    firstTexts (ts.filter keep) = (firstTexts ts).filter keep := by
  induction ts with
  | nil => rfl
  | cons t rest ih =>
    cases kept : keep t with
    | true =>
      rw [List.filter_cons_of_pos kept, firstTexts, firstTexts, List.filter_cons_of_pos kept, ih,
        List.filter_comm]
    | false =>
      have covered : ∀ u ∈ firstTexts rest, keep u = (keep u && decide (u ≠ t)) := by
        intro u _
        by_cases same : u = t
        · simp [same, kept]
        · simp [same]
      rw [List.filter_cons_of_neg (by simp [kept]), firstTexts,
        List.filter_cons_of_neg (by simp [kept]), ih, List.filter_filter]
      exact List.filter_congr covered

end Mentions

section Bearers

theorem lastNamed_some {name : Text} (found : lastNamed? kept (.str name) = some s) :
    s ∈ kept ∧ s.name = .str name ∧ IsLast kept s := by
  unfold lastNamed? at found
  obtain ⟨bearing, after, before, split, none⟩ := List.find?_eq_some_iff_append.mp found
  have named : s.name = .str name := bears_iff.mp (by rw [← same_eq_bears]; exact bearing)
  refine ⟨lastNamed_mem found, named, before.reverse, after.reverse, ?_, ?_⟩
  · simpa using congrArg List.reverse split
  · intro s' member same
    have other := none s' (List.mem_reverse.mp member)
    rw [same_eq_bears, bears_iff.mpr (same.trans named)] at other
    cases other

theorem lastNamed_none {name : Text} :
    lastNamed? kept (.str name) = none ↔ ∀ s ∈ kept, s.name ≠ .str name := by
  simp only [lastNamed?, List.find?_eq_none, List.mem_reverse, same_eq_bears, bears_iff, Ne]

theorem lastNamed_of_unique {name : Text} (member : s ∈ kept) (named : s.name = .str name)
    (unique : ∀ s' ∈ kept, s'.name = .str name → s' = s) :
    lastNamed? kept (.str name) = some s := by
  cases found : lastNamed? kept (.str name) with
  | none => exact absurd named (lastNamed_none.mp found s member)
  | some s' =>
    obtain ⟨among, named', _⟩ := lastNamed_some found
    rw [unique s' among named']

/-- The last bearers of the names that are borne. -/
def lastBearers (kept : List Struct) (names : List Text) : List Struct :=
  names.filterMap fun t => lastNamed? kept (.str t)

theorem mem_lastBearers {names : List Text} :
    s ∈ lastBearers kept names ↔ ∃ t ∈ names, lastNamed? kept (.str t) = some s := by
  simp only [lastBearers, List.mem_filterMap]

def borne (kept : List Struct) (t : Text) : Bool := kept.any (bears t)

theorem borne_iff : borne kept t = true ↔ ∃ s ∈ kept, s.name = .str t := by
  simp only [borne, List.any_eq_true, bears_iff]

theorem lastBearers_names (kept : List Struct) (names : List Text) :
    (lastBearers kept names).map (·.name) = (names.filter (borne kept)).map .str := by
  induction names with
  | nil => rfl
  | cons t rest ih =>
    unfold lastBearers at ih ⊢
    cases found : lastNamed? kept (.str t) with
    | none =>
      have unborne : ¬ borne kept t = true := by
        rw [borne_iff]
        rintro ⟨s, member, named⟩
        exact lastNamed_none.mp found s member named
      rw [List.filterMap_cons, found, List.filter_cons_of_neg unborne]
      exact ih
    | some s =>
      obtain ⟨member, named, _⟩ := lastNamed_some found
      rw [List.filterMap_cons, found,
        List.filter_cons_of_pos (borne_iff.mpr ⟨s, member, named⟩), List.map_cons, named, ih]
      rfl

theorem lastBearers_nodup {names : List Text} (once : names.Nodup) :
    ((lastBearers kept names).map (·.name)).Nodup := by
  rw [lastBearers_names]
  exact (once.filter _).map fun _ _ same => Json.str.inj same

theorem bears_unique {s' : Struct} (distinct : (structs.map (·.name)).Nodup)
    (member : s ∈ structs) (member' : s' ∈ structs) (same : s.name = s'.name) : s = s' :=
  List.inj_on_of_nodup_map distinct member member' same

end Bearers

section Counts

theorem count_of_distinct (t : Text) (distinct : (structs.map (·.name)).Nodup) :
    structs.countP (bears t) ≤ 1 := by
  induction structs with
  | nil => exact Nat.zero_le 1
  | cons s rest ih =>
    obtain ⟨fresh, later⟩ := List.nodup_cons.mp distinct
    rw [List.countP_cons]
    split
    · rename_i bearing
      have none : rest.countP (bears t) = 0 := by
        rw [List.countP_eq_zero]
        intro s' member bearing'
        exact fresh (List.mem_map.mpr
          ⟨s', member, (bears_iff.mp bearing').trans (bears_iff.mp bearing).symm⟩)
      omega
    · exact ih later

/-- Listed names are distinct when each of them is counted once. -/
theorem distinct_of_count (once : ∀ t ∈ ordered, kept.countP (bears t) ≤ 1) :
    ((kept.filter (listedIn ordered ·)).map (·.name)).Nodup := by
  induction kept with
  | nil => exact List.nodup_nil
  | cons s rest ih =>
    have later : ∀ t ∈ ordered, rest.countP (bears t) ≤ 1 := by
      intro t listed
      have counted := once t listed
      rw [List.countP_cons] at counted
      omega
    cases listed : listedIn ordered s with
    | false => rw [List.filter_cons_of_neg (by simp [listed])]; exact ih later
    | true =>
      rw [List.filter_cons_of_pos listed, List.map_cons, List.nodup_cons]
      refine ⟨?_, ih later⟩
      obtain ⟨t, among, named⟩ := listedIn_iff.mp listed
      intro repeated
      obtain ⟨s', member, same⟩ := List.mem_map.mp repeated
      have bearing : 0 < rest.countP (bears t) :=
        List.countP_pos_iff.mpr
          ⟨s', (List.mem_filter.mp member).1, bears_iff.mpr (same.trans named)⟩
      have counted := once t among
      rw [List.countP_cons_of_pos (bears_iff.mpr named)] at counted
      omega

end Counts

section Order

/-- The kept structs in the order of the list. -/
def inOrder (ordered : List Text) (kept : List Struct) : List Struct :=
  lastBearers kept (firstTexts ordered) ++ kept.filter (!listedIn ordered ·)

theorem selectStructs_inOrder {config : Config} {ignored : List Text}
    (ignoring : config.ignoreStructs = some (.arr (ignored.map .str)))
    (ordering : config.orderStructs = some (.arr (ordered.map .str)))
    (keys : ∀ s ∈ structs, s.name.isKey = true) :
    selectStructs config structs =
      .ok (inOrder ordered (structs.filter (!listedIn ignored ·))) := by
  rw [selectStructs_lists ignoring ordering keys, firstMentions_texts, List.filterMap_map,
    unnamed_eq, unnamed_eq]
  rfl

theorem inOrder_subset (ordered : List Text) (kept : List Struct) : inOrder ordered kept ⊆ kept := by
  intro s member
  rcases List.mem_append.mp member with first | later
  · obtain ⟨t, _, found⟩ := mem_lastBearers.mp first
    exact (lastNamed_some found).1
  · exact (List.mem_filter.mp later).1

theorem unlisted_of_others {names : List Text} (member : s ∈ kept.filter (!listedIn names ·)) :
    ∀ t ∈ names, s.name ≠ .str t := by
  intro t listed named
  have unlisted := (List.mem_filter.mp member).2
  rw [listedIn_iff.mpr ⟨t, listed, named⟩] at unlisted
  cases unlisted

theorem firstListed_distinct (ordered : List Text) (kept : List Struct) :
    ((lastBearers kept (firstTexts ordered)).map (·.name)).Nodup :=
  lastBearers_nodup (firstTexts_nodup ordered)

theorem listed_of_first (member : s ∈ lastBearers kept (firstTexts ordered)) :
    s ∈ kept ∧ listedIn ordered s = true := by
  obtain ⟨t, among, found⟩ := mem_lastBearers.mp member
  obtain ⟨among', named, _⟩ := lastNamed_some found
  exact ⟨among', listedIn_iff.mpr ⟨t, mem_firstTexts.mp among, named⟩⟩

/-- Of a listed name there is one bearer at most. -/
theorem inOrder_count (kept : List Struct) (listed : t ∈ ordered) :
    (inOrder ordered kept).countP (bears t) ≤ 1 := by
  have others : (kept.filter (!listedIn ordered ·)).countP (bears t) = 0 := by
    rw [List.countP_eq_zero]
    intro s member bearing
    exact unlisted_of_others member t listed (bears_iff.mp bearing)
  rw [inOrder, List.countP_append, others]
  exact count_of_distinct t (firstListed_distinct ordered kept)

theorem lastBearers_perm (once : ∀ t ∈ ordered, kept.countP (bears t) ≤ 1) :
    (lastBearers kept (firstTexts ordered)).Perm (kept.filter (listedIn ordered ·)) := by
  have distinct := distinct_of_count once
  refine (List.perm_ext_iff_of_nodup (firstListed_distinct ordered kept).of_map
    distinct.of_map).mpr fun s => ⟨fun first => List.mem_filter.mpr (listed_of_first first), ?_⟩
  intro member
  obtain ⟨t, listed, named⟩ := listedIn_iff.mp (List.mem_filter.mp member).2
  have among := (List.mem_filter.mp member).1
  cases found : lastNamed? kept (.str t) with
  | none => exact absurd named (lastNamed_none.mp found s among)
  | some s' =>
    obtain ⟨among', named', _⟩ := lastNamed_some found
    have member' : s' ∈ kept.filter (listedIn ordered ·) :=
      List.mem_filter.mpr ⟨among', listedIn_iff.mpr ⟨t, listed, named'⟩⟩
    rw [bears_unique distinct member member' (named.trans named'.symm)]
    exact mem_lastBearers.mpr ⟨t, mem_firstTexts.mpr listed, found⟩

/-- Nothing is lost exactly when no two structs bear one listed name. -/
theorem inOrder_perm_iff :
    (inOrder ordered kept).Perm kept ↔ ∀ t ∈ ordered, kept.countP (bears t) ≤ 1 := by
  constructor
  · intro whole t listed
    rw [← whole.countP_eq]
    exact inOrder_count kept listed
  · intro once
    exact ((lastBearers_perm once).append_right _).trans (List.filter_append_perm _ kept)

/-- Names that no kept struct bears can be listed or not. -/
theorem inOrder_filter {keep : Text → Bool}
    (covers : ∀ s ∈ kept, ∀ t, s.name = .str t → keep t = true) :
    inOrder (ordered.filter keep) kept = inOrder ordered kept := by
  have first : lastBearers kept (firstTexts (ordered.filter keep)) =
      lastBearers kept (firstTexts ordered) := by
    rw [firstTexts_filter, lastBearers, List.filterMap_filter]
    apply List.filterMap_congr
    intro t _
    split
    · rfl
    · rename_i dropped
      exact (lastNamed_none.mpr fun s member named => dropped (covers s member t named)).symm
  have others : kept.filter (!listedIn (ordered.filter keep) ·) =
      kept.filter (!listedIn ordered ·) := by
    apply List.filter_congr
    intro s member
    have same : listedIn (ordered.filter keep) s = listedIn ordered s := by
      rw [Bool.eq_iff_iff, listedIn_iff, listedIn_iff]
      constructor
      · rintro ⟨t, listed, named⟩
        exact ⟨t, (List.mem_filter.mp listed).1, named⟩
      · rintro ⟨t, listed, named⟩
        exact ⟨t, List.mem_filter.mpr ⟨listed, covers s member t named⟩, named⟩
    rw [same]
  rw [inOrder, first, others, inOrder]

theorem lastNamed_inOrder (listed : t ∈ ordered) :
    lastNamed? (inOrder ordered kept) (.str t) = lastNamed? kept (.str t) := by
  cases found : lastNamed? kept (.str t) with
  | none => exact lastNamed_none.mpr fun s member =>
      lastNamed_none.mp found s (inOrder_subset ordered kept member)
  | some s =>
    have named := (lastNamed_some found).2.1
    have first : s ∈ lastBearers kept (firstTexts ordered) :=
      mem_lastBearers.mpr ⟨t, mem_firstTexts.mpr listed, found⟩
    refine lastNamed_of_unique (List.mem_append_left _ first) named ?_
    intro s' member named'
    rcases List.mem_append.mp member with first' | other
    · exact bears_unique (firstListed_distinct ordered kept) first' first
        (named'.trans named.symm)
    · exact absurd named' (unlisted_of_others other t listed)

theorem inOrder_inOrder (ordered : List Text) (kept : List Struct) :
    inOrder ordered (inOrder ordered kept) = inOrder ordered kept := by
  have first : lastBearers (inOrder ordered kept) (firstTexts ordered) =
      lastBearers kept (firstTexts ordered) :=
    List.filterMap_congr fun t member => lastNamed_inOrder (mem_firstTexts.mp member)
  have dropped : (lastBearers kept (firstTexts ordered)).filter (!listedIn ordered ·) = [] := by
    rw [List.filter_eq_nil_iff]
    intro s member
    simp [(listed_of_first member).2]
  have others : (inOrder ordered kept).filter (!listedIn ordered ·) =
      kept.filter (!listedIn ordered ·) := by
    rw [inOrder, List.filter_append, dropped, List.filter_filter]
    simp only [Bool.and_self, List.nil_append]
  rw [inOrder, first, others, inOrder]

end Order

/-- The structs that stand first: in the order in which the listed names are first mentioned, the
last bearer of each that is borne. -/
structure Foremost (ordered : List Text) (kept listed : List Struct) : Prop where
  named : ∃ names : List Text, listed.map (·.name) = names.map .str ∧
    (∀ t, t ∈ names ↔ t ∈ ordered ∧ ∃ s ∈ kept, s.name = .str t) ∧
    names.Pairwise fun t u => ordered.idxOf t < ordered.idxOf u
  last : ∀ s ∈ listed, IsLast kept s

theorem foremost (ordered : List Text) (kept : List Struct) :
    Foremost ordered kept (lastBearers kept (firstTexts ordered)) := by
  refine ⟨⟨_, lastBearers_names kept _, ?_, (firstTexts_ordered ordered).filter _⟩, ?_⟩
  · intro t
    rw [List.mem_filter, mem_firstTexts, borne_iff]
  · intro s member
    obtain ⟨t, _, found⟩ := mem_lastBearers.mp member
    exact (lastNamed_some found).2.2

theorem selected_inOrder {g : Generator} {ignored : List Text}
    (ignoring : g.config.ignoreStructs = some (.arr (ignored.map .str)))
    (ordering : g.config.orderStructs = some (.arr (ordered.map .str)))
    (texts : ∀ s ∈ g.module.structs, ∃ t, s.name = .str t) :
    g.selected = .ok (inOrder ordered (g.module.structs.filter (!listedIn ignored ·))) := by
  have keys : ∀ s ∈ g.module.structs, s.name.isKey = true := by
    intro s member
    obtain ⟨t, named⟩ := texts s member
    rw [named]
    rfl
  exact congrArg ofUse (selectStructs_inOrder ignoring ordering keys)

/-- The same generator with another order list. -/
def Generator.listing (g : Generator) (names : List Text) : Generator :=
  { g with config := { g.config with orderStructs := some (.arr (names.map .str)) } }

/-- The same generator over other structs. -/
def Generator.holding (g : Generator) (structs : List Struct) : Generator :=
  { g with module := { g.module with structs } }

/-- What a selection by lists of texts gives: when nothing is lost by it, which listed names do not
matter, and that it changes nothing when it is made again. -/
theorem selection_law {g : Generator} {ignored ordered : List Text}
    (ignoring : g.config.ignoreStructs = some (.arr (ignored.map .str)))
    (ordering : g.config.orderStructs = some (.arr (ordered.map .str)))
    (texts : ∀ s ∈ g.module.structs, ∃ t, s.name = .str t) :
    ∃ kept listed others, kept = g.module.structs.filter (!listedIn ignored ·) ∧
      others = kept.filter (!listedIn ordered ·) ∧ Foremost ordered kept listed ∧
      g.selected = .ok (listed ++ others) ∧
      ((listed ++ others).Perm kept ↔ ∀ t ∈ ordered, kept.countP (bears t) ≤ 1) ∧
      (∀ keep : Text → Bool, (∀ s ∈ kept, ∀ t, s.name = .str t → keep t = true) →
        (g.listing (ordered.filter keep)).selected = .ok (listed ++ others)) ∧
      (g.holding (listed ++ others)).selected = .ok (listed ++ others) := by
  let kept := g.module.structs.filter (!listedIn ignored ·)
  refine ⟨kept, lastBearers kept (firstTexts ordered), _, rfl, rfl, foremost ordered kept,
    selected_inOrder ignoring ordering texts, inOrder_perm_iff, ?_, ?_⟩
  · intro keep covers
    have relisted : (g.listing (ordered.filter keep)).selected =
        .ok (inOrder (ordered.filter keep) kept) := selected_inOrder ignoring rfl texts
    rw [relisted, inOrder_filter covers]
    rfl
  · have within : inOrder ordered kept ⊆ kept := inOrder_subset ordered kept
    have texts' : ∀ s ∈ inOrder ordered kept, ∃ t, s.name = .str t :=
      fun s member => texts s (List.mem_filter.mp (within member)).1
    have keeps : (inOrder ordered kept).filter (!listedIn ignored ·) = inOrder ordered kept :=
      List.filter_eq_self.mpr fun s member => (List.mem_filter.mp (within member)).2
    have again : (g.holding (inOrder ordered kept)).selected =
        .ok (inOrder ordered ((inOrder ordered kept).filter (!listedIn ignored ·))) :=
      selected_inOrder ignoring ordering texts'
    rw [keeps, inOrder_inOrder] at again
    exact again

def stop (flag : Bool) : Struct := ⟨.regular, .str "stop", [⟨.str "a", .leaf .boolean, flag⟩]⟩

def leg : Struct := ⟨.regular, .str "leg", []⟩

def depot : Struct := ⟨.regular, .str "depot", []⟩

/-- Two structs of one listed name, and a struct that is listed as well as ignored. -/
def timetable : Generator where
  module := ⟨.str "Maps", [stop true, leg, depot, stop false]⟩
  style := .style .folly
  config := { Config.standard with
    ignoreStructs := some (.arr [.str "depot"])
    orderStructs := some (.arr [.str "depot", .str "stop", .str "tram", .str "stop"]) }

theorem timetable_loses_stop :
    timetable.selected = .ok [stop false, leg] ∧
      ¬ [stop false, leg].Perm [stop true, leg, stop false] := by
  have texts : ∀ s ∈ timetable.module.structs, ∃ t, s.name = .str t := by
    intro s member
    simp only [timetable, List.mem_cons, List.not_mem_nil, or_false] at member
    rcases member with rfl | rfl | rfl | rfl <;> exact ⟨_, rfl⟩
  have ignoring : timetable.config.ignoreStructs = some (.arr (["depot"].map .str)) := rfl
  have ordering : timetable.config.orderStructs =
      some (.arr (["depot", "stop", "tram", "stop"].map .str)) := rfl
  obtain ⟨kept, listed, others, keeping, _, _, selected, whole, _⟩ :=
    selection_law ignoring ordering texts
  have chosen : timetable.selected = .ok [stop false, leg] := by with_unfolding_all rfl
  obtain rfl : kept = [stop true, leg, stop false] := keeping.trans (by with_unfolding_all rfl)
  rw [Except.ok.inj (selected.symm.trans chosen)] at whole
  refine ⟨chosen, fun same => ?_⟩
  have counted := whole.mp same "stop" (by simp)
  exact absurd counted (by decide)

end StructBridge
