import StructBridge.Proofs.Overwriting

/-!
Settings read from an object and written out again. Each setting depends on the value under its own
key alone, so neither the order of the keys nor other keys count. What is written out is read as the
same settings; only an output that was kept unread cannot be written.
-/
namespace StructBridge
open Code

/-- The output settings of a value: an object is read, any other value is kept as it is. -/
def OutputSetting.ofJson (v : Json) : Except Fault OutputSetting :=
  if v.isObject then (OutputSettings.ofJson v).map .settings else .ok (.other v)

namespace Config

def settingKeys : List Text := [ignoreKey, orderKey, commentKey, styleKey, parallelKey, outputKey]

/-- The keys that reach the record itself. -/
def innerKeys : List Text := [exportKey, kindKey, referencesKey, recordKey]

/-- The value that replaces another one, if it can be read, where one is given. -/
def replaced {α : Type} (read : Json → Option α) (old : α) : Option Json → Option α
  | none => some old
  | some v => read v

def readStyle (v : Json) : Option StyleSetting := (styleOf v).toOption.map .style

def readOutput (v : Json) : Option (Option OutputSetting) :=
  (OutputSetting.ofJson v).toOption.map some

/-- The settings with a style, an output and the other values that are given. -/
def filled (base : Config) (given : Text → Option Json) (style : StyleSetting)
    (output : Option OutputSetting) : Config where
  ignoreStructs := (given ignoreKey).or base.ignoreStructs
  orderStructs := (given orderKey).or base.orderStructs
  addGenerationComment := (given commentKey).getD base.addGenerationComment
  optionalStyle := style
  parallel := (given parallelKey).getD base.parallel
  output := output
  blocked := base.blocked

/-- The settings with the values that are given in the place of others. -/
def fill (base : Config) (given : Text → Option Json) : Option Config := do
  let style ← replaced readStyle base.optionalStyle (given styleKey)
  let output ← replaced readOutput base.output (given outputKey)
  return base.filled given style output

/-- Settings that lack none. -/
structure Whole (config : Config) : Prop where
  ignoring : config.ignoreStructs.isSome = true
  ordering : config.orderStructs.isSome = true
  output : config.output.isSome = true

theorem keys_nodup : (settingKeys ++ innerKeys).Nodup := by
  decide

variable {base config : Config} {key : Text} {v : Json}

section Filling

variable {given given' : Text → Option Json}

theorem fill_congr (same : ∀ k ∈ settingKeys, given k = given' k) :
    base.fill given = base.fill given' := by
  have each {k : Text} (among : k ∈ settingKeys := by simp [settingKeys]) : given k = given' k :=
    same k among
  unfold fill filled
  rw [each (k := ignoreKey), each (k := orderKey), each (k := commentKey), each (k := styleKey),
    each (k := parallelKey), each (k := outputKey)]

theorem fill_nothing : base.fill (fun _ => none) = some base := by
  rfl

theorem fill_eq_some : base.fill given = some config ↔ ∃ style output,
    replaced readStyle base.optionalStyle (given styleKey) = some style ∧
      replaced readOutput base.output (given outputKey) = some output ∧
      config = base.filled given style output := by
  constructor
  · intro run
    obtain ⟨style, styled, run⟩ := Option.bind_eq_some_iff.mp run
    obtain ⟨output, held, run⟩ := Option.bind_eq_some_iff.mp run
    exact ⟨style, output, styled, held, (Option.some.inj run).symm⟩
  · rintro ⟨style, output, styled, held, rfl⟩
    rw [fill, styled, held]
    rfl

theorem replaced_or {α : Type} {read : Json → Option α} {old : α} {v w : Option Json}
    (apart : v = none ∨ w = none) :
    replaced read old (w.or v) = (replaced read old v).bind fun new => replaced read new w := by
  rcases apart with rfl | rfl
  · rw [Option.or_none]
    rfl
  · rw [Option.none_or]
    exact (Option.bind_fun_some _).symm

/-- Values under different keys can be given one after the other. -/
theorem fill_fill (apart : ∀ k, given k = none ∨ given' k = none) :
    (base.fill given).bind (·.fill given') = base.fill fun k => (given' k).or (given k) := by
  unfold fill
  simp only [replaced_or (apart styleKey), replaced_or (apart outputKey)]
  cases replaced readStyle base.optionalStyle (given styleKey) with
  | none => rfl
  | some style =>
    cases replaced readOutput base.output (given outputKey) with
    | none => simp
    | some output =>
      have twice (style' : StyleSetting) (output' : Option OutputSetting) :
          (base.filled given style output).filled given' style' output' =
            base.filled (fun k => (given' k).or (given k)) style' output' := by
        simp only [filled, Option.or_assoc, Option.getD_or]
      simp only [Option.bind_eq_bind, Option.bind_some, Option.pure_def, twice]
      rfl

end Filling

/-- A value under one key. -/
def single (key : Text) (v : Json) (k : Text) : Option Json := if k = key then some v else none

theorem read_unknown (plain : key ∉ innerKeys) (unknown : key ∉ settingKeys) :
    base.read key v = .ok base := by
  simp only [settingKeys, innerKeys, List.mem_cons, List.not_mem_nil, or_false, not_or]
    at plain unknown
  simp [read, put, has, plain, unknown]

/-- A key that is read gives its own setting its value. -/
theorem fill_single (whole : base.Whole) (plain : key ∉ innerKeys) :
    (base.read key v).toOption = base.fill (single key v) := by
  by_cases known : key ∈ settingKeys
  · -- Keys are compared with one another from either side, so their distinctness is taken both ways.
    have apart := keys_nodup
    have back := List.nodup_reverse.mpr keys_nodup
    simp only [settingKeys, innerKeys, List.cons_append, List.nil_append, List.nodup_cons,
      List.mem_cons, not_or, List.reverse_cons, List.reverse_nil] at apart back
    simp only [settingKeys, List.mem_cons, List.not_mem_nil, or_false] at known
    rcases known with rfl | rfl | rfl | rfl | rfl | rfl
    · simp [read, put, has, fill, filled, single, replaced, apart, back, whole.ignoring,
        Except.toOption]
    · simp [read, put, has, fill, filled, single, replaced, apart, back, whole.ordering,
        Except.toOption]
    · simp [read, put, has, fill, filled, single, replaced, apart, back, Except.toOption]
    · cases styled : styleOf v <;>
        simp [read, fill, filled, single, replaced, readStyle, apart, back, styled, Except.toOption,
          Except.map]
    · simp [read, put, has, fill, filled, single, replaced, apart, back, Except.toOption]
    · cases object : v.isObject with
      | false =>
        simp [read, put, has, fill, filled, single, replaced, readOutput, apart, back, object,
          OutputSetting.ofJson, whole.output, Except.toOption]
      | true =>
        cases output : OutputSettings.ofJson v <;>
          simp [read, fill, filled, single, replaced, readOutput, apart, back, object, output,
            OutputSetting.ofJson, Except.toOption, Except.map]
  · rw [read_unknown plain known, fill_congr, fill_nothing]
    · rfl
    · intro k among
      exact if_neg fun same => known (same.subst among)

theorem whole_of_fill {given : Text → Option Json} (whole : base.Whole)
    (run : base.fill given = some config) : config.Whole := by
  obtain ⟨style, output, _, held, rfl⟩ := fill_eq_some.mp run
  refine ⟨?_, ?_, ?_⟩
  · simp [filled, whole.ignoring]
  · simp [filled, whole.ordering]
  · cases here : given outputKey with
    | none =>
      rw [here] at held
      obtain rfl := Option.some.inj held
      exact whole.output
    | some v =>
      rw [here] at held
      obtain ⟨setting, _, rfl⟩ := Option.map_eq_some_iff.mp held
      rfl

theorem lookup_of_fresh {rest : List (Text × Json)} (fresh : key ∉ rest.map Prod.fst) :
    List.lookup key rest = none := by
  rw [List.lookup_eq_none_iff]
  rintro ⟨other, w⟩ member
  exact bne_iff_ne.mpr fun same => fresh (List.mem_map.mpr ⟨_, member, same.symm⟩)

theorem lookup_field {rest : List (Text × Json)} (k : Text) (fresh : key ∉ rest.map Prod.fst) :
    List.lookup k ((key, v) :: rest) = (List.lookup k rest).or (single key v k) := by
  rw [List.lookup_cons, single]
  by_cases same : k = key
  · subst same
    rw [lookup_of_fresh fresh, beq_self_eq_true, if_pos rfl]
    rfl
  · rw [if_neg same, beq_false_of_ne same, Option.or_none]

/-- Settings read from keys that differ are the values under the keys of the settings. -/
theorem readAll_eq_fill {fields : List (Text × Json)} (whole : base.Whole)
    (distinct : (fields.map Prod.fst).Nodup) (plain : ∀ field ∈ fields, field.1 ∉ innerKeys) :
    (base.readAll fields).toOption = base.fill fun k => fields.lookup k := by
  induction fields generalizing base with
  | nil => rfl
  | cons field rest ih =>
    obtain ⟨key, v⟩ := field
    obtain ⟨fresh, distinct⟩ := List.nodup_cons.mp distinct
    obtain ⟨here, plain⟩ := List.forall_mem_cons.mp plain
    have apart (k : Text) : single key v k = none ∨ List.lookup k rest = none := by
      by_cases same : k = key
      · exact .inr (same ▸ lookup_of_fresh fresh)
      · exact .inl (if_neg same)
    -- The rest is read into settings that have changed, which are whole again.
    simp only [lookup_field _ fresh]
    rw [← fill_fill apart, ← fill_single whole here, readAll]
    cases first : base.read key v with
    | error fault => rfl
    | ok next =>
      have alone : base.fill (single key v) = some next := by
        rw [← fill_single whole here, first]
        rfl
      exact ih (whole_of_fill whole alone) distinct plain

end Config

namespace Code.OptionalStyle

theorem ofLabel_eq_some {t : Text} {style : OptionalStyle} :
    ofLabel? t = some style ↔ t = style.label := by
  constructor
  · intro found
    exact (by simpa using List.find?_some found : style.label = t).symm
  · rintro rfl
    cases style <;> decide

end Code.OptionalStyle

theorem OutputMode.ofLabel_eq_some {t : Text} {m : OutputMode} :
    OutputMode.ofLabel? t = some m ↔ t = m.label := by
  constructor
  · intro found
    exact (label_of_ofLabel found).symm
  · rintro rfl
    cases m <;> decide

section Reading

variable {v : Json}

theorem styleOf_eq_ok {style : OptionalStyle} : styleOf v = .ok style ↔ v = .str style.label := by
  unfold styleOf
  constructor
  · intro read
    split at read
    · rename_i found
      obtain ⟨t, text, known⟩ := Option.bind_eq_some_iff.mp found
      obtain rfl := Except.ok.inj read
      cases v <;> cases text
      rw [Code.OptionalStyle.ofLabel_eq_some.mp known]
    · cases read
  · rintro rfl
    have found : OptionalStyle.ofLabel? style.label = some style :=
      Code.OptionalStyle.ofLabel_eq_some.mpr rfl
    simp [Json.text?, found]

theorem style_readable : (∃ style, styleOf v = .ok style) ↔ v = .str "folly" ∨ v = .str "std" := by
  constructor
  · rintro ⟨style, read⟩
    cases style with
    | folly => exact .inl (styleOf_eq_ok.mp read)
    | std => exact .inr (styleOf_eq_ok.mp read)
  · rintro (rfl | rfl)
    · exact ⟨.folly, styleOf_eq_ok.mpr rfl⟩
    · exact ⟨.std, styleOf_eq_ok.mpr rfl⟩

theorem mode_readable :
    (∃ mode, ModeSetting.ofJson v = .ok mode) ↔ ∀ t, v = .str t → t = "error" ∨ t = "force" := by
  cases v with
  | str label =>
    constructor
    · rintro ⟨mode, read⟩ t same
      obtain rfl := Json.str.inj same
      unfold ModeSetting.ofJson at read
      dsimp only at read
      split at read
      · rename_i m found
        cases m with
        | keep => exact .inl (OutputMode.ofLabel_eq_some.mp found)
        | force => exact .inr (OutputMode.ofLabel_eq_some.mp found)
      · cases read
    · intro known
      obtain ⟨m, found⟩ : ∃ m, OutputMode.ofLabel? label = some m := by
        rcases known label rfl with rfl | rfl
        · exact ⟨.keep, OutputMode.ofLabel_eq_some.mpr rfl⟩
        · exact ⟨.force, OutputMode.ofLabel_eq_some.mpr rfl⟩
      exact ⟨.mode m, by simp [ModeSetting.ofJson, found]⟩
  | _ => exact ⟨fun _ _ same => (nomatch same), fun _ => ⟨.other _, rfl⟩⟩

theorem style_error {fault : Fault} (stopped : styleOf v = .error fault) :
    fault = .unknownChoice .optionalStyle v := by
  unfold styleOf at stopped
  split at stopped
  · cases stopped
  · exact (Except.error.inj stopped).symm

theorem mode_error {fault : Fault} (stopped : ModeSetting.ofJson v = .error fault) :
    fault = .unknownChoice .outputMode v := by
  unfold ModeSetting.ofJson at stopped
  split at stopped
  · split at stopped
    · cases stopped
    · exact (Except.error.inj stopped).symm
  · cases stopped

theorem output_error {fault : Fault} (stopped : OutputSettings.ofJson v = .error fault) :
    ∃ mode, v.field? "mode" = some mode ∧ fault = .unknownChoice .outputMode mode := by
  rcases error_of_bind stopped with stopped | ⟨_, _, stopped⟩
  · unfold Json.fieldD at stopped
    cases given : v.field? "mode" with
    | none =>
      rw [given] at stopped
      obtain ⟨mode, read⟩ : ∃ mode, ModeSetting.ofJson (.str OutputMode.keep.label) = .ok mode :=
        mode_readable.mpr fun t same => .inl (Json.str.inj same).symm
      exact nomatch read.symm.trans stopped
    | some mode =>
      rw [given] at stopped
      exact ⟨mode, rfl, mode_error stopped⟩
  · cases stopped

/-- The modes that are read as one of the two are those given as text. -/
theorem mode_text {mode : ModeSetting} (read : ModeSetting.ofJson v = .ok mode) :
    (∃ m, mode = .mode m) ↔ ∃ t, v = .str t := by
  cases v with
  | str label =>
    unfold ModeSetting.ofJson at read
    dsimp only at read
    split at read
    · obtain rfl := Except.ok.inj read
      exact ⟨fun _ => ⟨label, rfl⟩, fun _ => ⟨_, rfl⟩⟩
    · cases read
  | _ =>
    obtain rfl := Except.ok.inj read
    exact ⟨fun ⟨_, same⟩ => (nomatch same), fun ⟨_, same⟩ => (nomatch same)⟩

theorem output_of_object (object : v.isObject = true) {output : OutputSetting} :
    OutputSetting.ofJson v = .ok output ↔ ∃ mode,
      ModeSetting.ofJson (v.fieldD "mode" (.str OutputMode.keep.label)) = .ok mode ∧
      output = .settings ⟨mode, v.fieldD "validate_before_write" (.bool true),
        v.fieldD "atomic_write" (.bool true)⟩ := by
  rw [OutputSetting.ofJson, if_pos object]
  constructor
  · intro read
    obtain ⟨s, given, rfl⟩ := ok_of_map read
    obtain ⟨mode, checked, made⟩ := ok_of_bind given
    obtain rfl := Except.ok.inj made
    exact ⟨mode, checked, rfl⟩
  · rintro ⟨mode, read, rfl⟩
    rw [OutputSettings.ofJson, read]
    rfl

theorem no_fields (object : v.isObject = false) (key : Text) : v.field? key = none := by
  cases v with
  | obj fields => cases object
  | _ => rfl

theorem output_readable : (∃ output, OutputSetting.ofJson v = .ok output) ↔
    ∀ t, v.field? "mode" = some (.str t) → t = "error" ∨ t = "force" := by
  cases object : v.isObject with
  | false =>
    rw [OutputSetting.ofJson, object]
    exact ⟨fun _ t given => (nomatch (no_fields object _).symm.trans given), fun _ => ⟨_, rfl⟩⟩
  | true =>
    have reading : (∃ output, OutputSetting.ofJson v = .ok output) ↔
        ∃ mode, ModeSetting.ofJson (v.fieldD "mode" (.str OutputMode.keep.label)) = .ok mode := by
      simp only [output_of_object object]
      exact ⟨fun ⟨_, mode, read, _⟩ => ⟨mode, read⟩, fun ⟨mode, read⟩ => ⟨_, mode, read, rfl⟩⟩
    rw [reading, mode_readable, Json.fieldD]
    cases v.field? "mode" with
    | none =>
      exact ⟨fun _ _ given => (nomatch given), fun _ t same => .inl (Json.str.inj same).symm⟩
    | some w =>
      exact ⟨fun known t given => known t (Option.some.inj given), fun known t same =>
        known t (congrArg some same)⟩

theorem output_writable {output : OutputSetting} (read : OutputSetting.ofJson v = .ok output) :
    (∃ w, output.toJson = .ok w) ↔
      v.isObject = true ∧ ∀ w, v.field? "mode" = some w → ∃ t, w = .str t := by
  cases object : v.isObject with
  | false =>
    rw [OutputSetting.ofJson, object] at read
    obtain rfl := Except.ok.inj read
    exact ⟨fun ⟨_, written⟩ => (nomatch written), fun ⟨same, _⟩ => (nomatch same)⟩
  | true =>
    obtain ⟨mode, checked, rfl⟩ := (output_of_object object).mp read
    have writing (s : OutputSettings) :
        (∃ w, (OutputSetting.settings s).toJson = .ok w) ↔ ∃ m, s.mode = .mode m := by
      obtain ⟨mode, validated, atomic⟩ := s
      cases mode with
      | mode m => exact ⟨fun _ => ⟨m, rfl⟩, fun _ => ⟨_, rfl⟩⟩
      | other v => exact ⟨fun ⟨_, written⟩ => (nomatch written), fun ⟨_, same⟩ => (nomatch same)⟩
    rw [writing, mode_text checked, and_iff_right rfl, Json.fieldD]
    cases v.field? "mode" with
    | none => exact ⟨fun _ _ given => (nomatch given), fun _ => ⟨_, rfl⟩⟩
    | some w =>
      exact ⟨fun text _ given => Option.some.inj given ▸ text, fun texts => texts w rfl⟩

end Reading

/-- The style, where one is given, is one of the two. -/
def StyleReadable (settings : Json) : Prop :=
  ∀ v, settings.field? Config.styleKey = some v → v = .str "folly" ∨ v = .str "std"

/-- The mode, where one is given as text, is one of the two. -/
def ModeReadable (settings : Json) : Prop :=
  ∀ t, modeGiven? settings = some (.str t) → t = "error" ∨ t = "force"

/-- The output, where one is given, is an object. -/
def OutputIsObject (settings : Json) : Prop :=
  ∀ v, settings.field? Config.outputKey = some v → v.isObject = true

namespace Config

/-- The record that settings are written out as. -/
def exported (ignored ordered comment : Json) (style : OptionalStyle) (parallel : Json)
    (m : OutputMode) (validated atomic : Json) : Json :=
  .obj [(ignoreKey, ignored), (orderKey, ordered), (commentKey, comment),
    (styleKey, .str style.label), (parallelKey, parallel), (outputKey, .obj [("mode", .str m.label),
      ("validate_before_write", validated), ("atomic_write", atomic)])]

variable {config : Config} {v : Json}

/-- What settings that can be written out are, and what is written. -/
theorem toJson_eq_ok : config.toJson = .ok v ↔
    ∃ ignored ordered comment style parallel m validated atomic,
      config = ⟨some ignored, some ordered, comment, .style style, parallel,
        some (.settings ⟨.mode m, validated, atomic⟩), false⟩ ∧
      v = exported ignored ordered comment style parallel m validated atomic := by
  constructor
  · intro written
    obtain ⟨ignoring, ordering, comment, styled, parallel, output, blocked⟩ := config
    -- A blocked record, a missing value and a value kept unread each stop the writing.
    rcases blocked with _ | _
    · rcases ignoring with _ | ignored
      · cases written
      rcases ordering with _ | ordered
      · cases written
      rcases styled with style | _
      · rcases output with _ | ⟨mode, validated, atomic⟩ | _
        · cases written
        · rcases mode with m | _
          · exact ⟨ignored, ordered, comment, style, parallel, m, validated, atomic, rfl,
              (Except.ok.inj written).symm⟩
          · cases written
        · cases written
      · cases written
    · cases written
  · rintro ⟨ignored, ordered, comment, style, parallel, m, validated, atomic, rfl, rfl⟩
    rfl

theorem ofJson_toJson (written : config.toJson = .ok v) : Config.ofJson v = .ok config := by
  obtain ⟨ignored, ordered, comment, style, parallel, m, validated, atomic, rfl, rfl⟩ :=
    toJson_eq_ok.mp written
  cases style <;> cases m <;> with_unfolding_all rfl

theorem standard_whole : standard.Whole := ⟨rfl, rfl, rfl⟩

variable {fields : List (Text × Json)}

theorem ofJson_eq_ok (distinct : (fields.map Prod.fst).Nodup)
    (plain : ∀ field ∈ fields, field.1 ∉ innerKeys) :
    Config.ofJson (.obj fields) = .ok config ↔
      standard.fill (fun k => fields.lookup k) = some config := by
  rw [← readAll_eq_fill standard_whole distinct plain]
  constructor
  · intro read
    change standard.readAll fields = .ok config at read
    rw [read]
    rfl
  · exact ok_of_toOption

theorem replaced_some {α : Type} {read : Json → Option α} (old : α) {given : Option Json} :
    (∃ new, replaced read old given = some new) ↔
      ∀ v, given = some v → ∃ new, read v = some new := by
  cases given with
  | none => exact ⟨fun _ _ given => (nomatch given), fun _ => ⟨old, rfl⟩⟩
  | some v =>
    exact ⟨fun found _ same => Option.some.inj same ▸ found, fun found => found v rfl⟩

theorem readStyle_some : (∃ style, readStyle v = some style) ↔ ∃ style, styleOf v = .ok style := by
  rw [readStyle]
  cases styleOf v <;> simp [Except.toOption]

theorem readOutput_some :
    (∃ output, readOutput v = some output) ↔ ∃ output, OutputSetting.ofJson v = .ok output := by
  rw [readOutput]
  cases OutputSetting.ofJson v <;> simp [Except.toOption]

theorem fill_some {base : Config} {given : Text → Option Json} :
    (∃ config, base.fill given = some config) ↔
      (∀ v, given styleKey = some v → ∃ style, styleOf v = .ok style) ∧
        ∀ v, given outputKey = some v → ∃ output, OutputSetting.ofJson v = .ok output := by
  simp only [← readStyle_some, ← readOutput_some]
  rw [← replaced_some base.optionalStyle, ← replaced_some base.output]
  constructor
  · rintro ⟨config, run⟩
    obtain ⟨style, output, styled, held, _⟩ := fill_eq_some.mp run
    exact ⟨⟨style, styled⟩, output, held⟩
  · rintro ⟨⟨style, styled⟩, output, held⟩
    exact ⟨_, fill_eq_some.mpr ⟨style, output, styled, held, rfl⟩⟩

/-- Settings that were read from an object lack none, and their style is one of the two. -/
theorem made_of_fill {given : Text → Option Json} (run : standard.fill given = some config) :
    ∃ ignored ordered comment style parallel output, config =
      ⟨some ignored, some ordered, comment, .style style, parallel, some output, false⟩ := by
  obtain ⟨ignoring, ordering, held⟩ := whole_of_fill standard_whole run
  obtain ⟨style, output, styled, _, rfl⟩ := fill_eq_some.mp run
  obtain ⟨known, rfl⟩ : ∃ known, style = .style known := by
    cases chosen : given styleKey with
    | none =>
      rw [chosen] at styled
      exact ⟨_, (Option.some.inj styled).symm⟩
    | some v =>
      rw [chosen] at styled
      obtain ⟨known, _, rfl⟩ := Option.map_eq_some_iff.mp styled
      exact ⟨known, rfl⟩
  obtain ⟨ignored, ignoring⟩ := Option.isSome_iff_exists.mp ignoring
  obtain ⟨ordered, ordering⟩ := Option.isSome_iff_exists.mp ordering
  obtain ⟨kept, held⟩ := Option.isSome_iff_exists.mp held
  refine ⟨ignored, ordered, (given commentKey).getD standard.addGenerationComment, known,
    (given parallelKey).getD standard.parallel, kept, ?_⟩
  rw [← ignoring, ← ordering, ← held]
  rfl

theorem toJson_some {ignored ordered comment : Json} {style : OptionalStyle} {parallel : Json}
    {output : OutputSetting} :
    (∃ v, Config.toJson ⟨some ignored, some ordered, comment, .style style, parallel, some output,
      false⟩ = .ok v) ↔ ∃ w, output.toJson = .ok w := by
  rcases output with ⟨m | mode, validated, atomic⟩ | kept
  · exact ⟨fun _ => ⟨_, rfl⟩, fun _ => ⟨_, rfl⟩⟩
  · exact ⟨fun ⟨_, written⟩ => (nomatch written), fun ⟨_, written⟩ => (nomatch written)⟩
  · exact ⟨fun ⟨_, written⟩ => (nomatch written), fun ⟨_, written⟩ => (nomatch written)⟩

/-- Settings that were read can be written when their output was given so, or not at all. -/
theorem toJson_of_fill {given : Text → Option Json} (run : standard.fill given = some config) :
    (∃ v, config.toJson = .ok v) ↔ ∀ v, given outputKey = some v →
      v.isObject = true ∧ ∀ w, v.field? "mode" = some w → ∃ t, w = .str t := by
  have kept : replaced readOutput standard.output (given outputKey) = some config.output := by
    obtain ⟨style, output, _, held, rfl⟩ := fill_eq_some.mp run
    exact held
  obtain ⟨ignored, ordered, comment, style, parallel, output, rfl⟩ := made_of_fill run
  rw [toJson_some]
  cases chosen : given outputKey with
  | none =>
    rw [chosen] at kept
    obtain rfl := Option.some.inj (Option.some.inj kept)
    exact ⟨fun _ _ same => (nomatch same), fun _ => ⟨_, rfl⟩⟩
  | some v =>
    rw [chosen] at kept
    obtain ⟨setting, read, same⟩ := Option.map_eq_some_iff.mp kept
    obtain rfl := Option.some.inj same
    rw [output_writable (ok_of_toOption read)]
    exact ⟨fun fits _ same => Option.some.inj same ▸ fits, fun fits => fits v rfl⟩

/-- What is given for a setting is written, but for the output. -/
theorem shown_of_fill {given : Text → Option Json} {w : Json}
    (run : standard.fill given = some config) (written : config.toJson = .ok v)
    (among : key ∈ settingKeys) (apart : key ≠ outputKey) (held : given key = some w) :
    v.field? key = some w := by
  obtain ⟨styling, output, styled, _, made⟩ := fill_eq_some.mp run
  obtain ⟨ignored, ordered, comment, style, parallel, m, validated, atomic, rfl, rfl⟩ :=
    toJson_eq_ok.mp written
  obtain ⟨ignoring, ordering, commenting, chosen, paralleling, _, _⟩ := Config.mk.inj made
  simp only [settingKeys, List.mem_cons, List.not_mem_nil, or_false] at among
  rcases among with rfl | rfl | rfl | rfl | rfl | rfl
  · rw [held] at ignoring
    obtain rfl : ignored = w := Option.some.inj ignoring
    with_unfolding_all rfl
  · rw [held] at ordering
    obtain rfl : ordered = w := Option.some.inj ordering
    with_unfolding_all rfl
  · rw [held] at commenting
    obtain rfl : comment = w := commenting
    with_unfolding_all rfl
  · rw [held] at styled
    obtain ⟨known, read, rfl⟩ := Option.map_eq_some_iff.mp styled
    obtain rfl := StyleSetting.style.inj chosen
    rw [styleOf_eq_ok.mp (ok_of_toOption read)]
    with_unfolding_all rfl
  · rw [held] at paralleling
    obtain rfl : parallel = w := paralleling
    with_unfolding_all rfl
  · exact absurd rfl apart

theorem put_plain (plain : key ∉ innerKeys) : ∃ next, config.put key v = .ok next := by
  simp only [innerKeys, List.mem_cons, List.not_mem_nil, or_false, not_or] at plain
  obtain ⟨notExport, notKind, notReferences, notRecord⟩ := plain
  unfold put
  rw [if_neg notExport, if_neg notKind, if_neg notReferences, if_neg notRecord]
  repeat' split
  all_goals exact ⟨_, rfl⟩

theorem read_error {fault : Fault} (plain : key ∉ innerKeys)
    (stopped : config.read key v = .error fault) :
    key = styleKey ∧ fault = .unknownChoice .optionalStyle v ∨
      key = outputKey ∧ ∃ mode, v.field? "mode" = some mode ∧
        fault = .unknownChoice .outputMode mode := by
  unfold read at stopped
  split at stopped
  · rename_i style
    exact .inl ⟨style, style_error (error_of_map stopped)⟩
  split at stopped
  · rename_i output
    exact .inr ⟨output.1, output_error (error_of_map stopped)⟩
  split at stopped
  · obtain ⟨next, done⟩ : ∃ next, config.put key v = .ok next := put_plain plain
    rw [done] at stopped
    cases stopped
  · cases stopped

theorem readAll_error {fault : Fault} (plain : ∀ field ∈ fields, field.1 ∉ innerKeys)
    (stopped : config.readAll fields = .error fault) :
    (∃ style, (styleKey, style) ∈ fields ∧ fault = .unknownChoice .optionalStyle style) ∨
      ∃ output mode, (outputKey, output) ∈ fields ∧ output.field? "mode" = some mode ∧
        fault = .unknownChoice .outputMode mode := by
  induction fields generalizing config with
  | nil => cases stopped
  | cons field rest ih =>
    obtain ⟨key, v⟩ := field
    obtain ⟨here, plain⟩ := List.forall_mem_cons.mp plain
    rcases error_of_bind stopped with stopped | ⟨next, _, stopped⟩
    · rcases read_error here stopped with ⟨rfl, why⟩ | ⟨rfl, mode, given, why⟩
      · exact .inl ⟨v, List.mem_cons_self, why⟩
      · exact .inr ⟨v, mode, List.mem_cons_self, given, why⟩
    · rcases ih plain stopped with ⟨style, member, why⟩ | ⟨output, mode, member, given, why⟩
      · exact .inl ⟨style, List.mem_cons_of_mem _ member, why⟩
      · exact .inr ⟨output, mode, List.mem_cons_of_mem _ member, given, why⟩

end Config

section Objects

variable {fields others : List (Text × Json)}

theorem lookup_eq_some {key : Text} {v : Json} (distinct : (fields.map Prod.fst).Nodup) :
    fields.lookup key = some v ↔ (key, v) ∈ fields := by
  constructor
  · intro found
    obtain ⟨before, after, rfl, _⟩ := List.lookup_eq_some_iff.mp found
    simp
  · exact lookup_of_mem distinct

theorem modeGiven_eq_some {mode : Json} : modeGiven? (.obj fields) = some mode ↔
    ∃ output, fields.lookup Config.outputKey = some output ∧ output.field? "mode" = some mode :=
  Option.bind_eq_some_iff

theorem modeReadable_iff : ModeReadable (.obj fields) ↔
    ∀ v, fields.lookup Config.outputKey = some v →
      ∀ t, v.field? "mode" = some (.str t) → t = "error" ∨ t = "force" := by
  constructor
  · intro known v held t given
    exact known t (modeGiven_eq_some.mpr ⟨v, held, given⟩)
  · intro known t given
    obtain ⟨v, held, given⟩ := modeGiven_eq_some.mp given
    exact known v held t given

theorem writable_iff : OutputIsObject (.obj fields) ∧ ModeIsText (.obj fields) ↔
    ∀ v, fields.lookup Config.outputKey = some v →
      v.isObject = true ∧ ∀ w, v.field? "mode" = some w → ∃ t, w = .str t := by
  constructor
  · intro ⟨objects, texts⟩ v held
    exact ⟨objects v held, fun w given => texts w (modeGiven_eq_some.mpr ⟨v, held, given⟩)⟩
  · intro fits
    refine ⟨fun v held => (fits v held).1, fun w given => ?_⟩
    obtain ⟨v, held, given⟩ := modeGiven_eq_some.mp given
    exact (fits v held).2 w given

end Objects

/-- Settings are read exactly when the style and a mode given as text are known. Those that are read
can be written exactly when the output, if given, is an object whose mode, if given, is a text; they
then survive being written and read. Neither the order of the keys nor unknown keys count. -/
theorem settings_read_and_written {fields : List (Text × Json)}
    (distinct : (fields.map Prod.fst).Nodup)
    (plain : ∀ field ∈ fields, field.1 ∉ Config.innerKeys) :
    let settings := Json.obj fields
    ((∃ config, Config.ofJson settings = .ok config) ↔
      StyleReadable settings ∧ ModeReadable settings) ∧
    (∀ fault, Config.ofJson settings = .error fault →
      (∃ v, settings.field? Config.styleKey = some v ∧ fault = .unknownChoice .optionalStyle v) ∨
        ∃ v, modeGiven? settings = some v ∧ fault = .unknownChoice .outputMode v) ∧
    (∀ config, Config.ofJson settings = .ok config →
      ((∃ v, config.toJson = .ok v) ↔ OutputIsObject settings ∧ ModeIsText settings) ∧
      ∀ v, config.toJson = .ok v →
        Config.ofJson v = .ok config ∧
        (∀ again, Config.ofJson v = .ok again → again.toJson = .ok v) ∧
        ∀ key w, (key, w) ∈ fields → key ∈ Config.settingKeys → key ≠ Config.outputKey →
          v.field? key = some w) ∧
    ∀ others : List (Text × Json), (others.map Prod.fst).Nodup →
      (∀ field ∈ others, field.1 ∉ Config.innerKeys) →
      (∀ key ∈ Config.settingKeys, ∀ v, (key, v) ∈ others ↔ (key, v) ∈ fields) →
      ∀ config, Config.ofJson (.obj others) = .ok config ↔ Config.ofJson settings = .ok config := by
  have read {config : Config} : Config.ofJson (.obj fields) = .ok config ↔
      Config.standard.fill (fun k => fields.lookup k) = some config :=
    Config.ofJson_eq_ok distinct plain
  refine ⟨?_, ?_, ?_, ?_⟩
  · rw [modeReadable_iff]
    simp only [read, Config.fill_some, style_readable, output_readable]
    rfl
  · intro fault stopped
    rcases Config.readAll_error plain stopped with
      ⟨v, member, why⟩ | ⟨output, v, member, given, why⟩
    · exact .inl ⟨v, lookup_of_mem distinct member, why⟩
    · have found : fields.lookup Config.outputKey = some output := lookup_of_mem distinct member
      exact .inr ⟨v, modeGiven_eq_some.mpr ⟨output, found, given⟩, why⟩
  · intro config done
    have run := read.mp done
    refine ⟨(Config.toJson_of_fill run).trans writable_iff.symm, fun v written => ?_⟩
    · have again := Config.ofJson_toJson written
      refine ⟨again, fun config' done => ?_, fun key w member among apart => ?_⟩
      · obtain rfl := Except.ok.inj (again.symm.trans done)
        exact written
      · exact Config.shown_of_fill run written among apart (lookup_of_mem distinct member)
  · intro others distinct' plain' agree config
    rw [Config.ofJson_eq_ok distinct' plain', read, Config.fill_congr]
    intro key among
    exact Option.ext fun v => by
      rw [lookup_eq_some distinct', lookup_eq_some distinct, agree key among v]

def bareFields : List (Text × Json) :=
  [("ignore_structs", .arr [.str "Draft"]), ("output", .obj [("mode", .str "force")]),
    ("optional_style", .str "std")]

/-- The same settings in another order, with a key that is unknown. -/
def teamFields : List (Text × Json) := ("team", .null) :: bareFields.reverse

theorem team_settings_survive :
    ∃ config v, Config.ofJson (.obj teamFields) = .ok config ∧ config.toJson = .ok v ∧
      Config.ofJson v = .ok config ∧ Config.ofJson (.obj bareFields) = .ok config ∧
      v.field? "ignore_structs" = some (.arr [.str "Draft"]) := by
  have distinct : (teamFields.map Prod.fst).Nodup := by decide
  have plain : ∀ field ∈ teamFields, field.1 ∉ Config.innerKeys := by
    have apart : ∀ key ∈ teamFields.map Prod.fst, key ∉ Config.innerKeys := by decide
    exact fun field member => apart _ (List.mem_map_of_mem member)
  have chosen : Json.field? (.obj teamFields) Config.styleKey = some (.str "std") := by
    with_unfolding_all rfl
  have output : Json.field? (.obj teamFields) Config.outputKey =
      some (.obj [("mode", .str "force")]) := by with_unfolding_all rfl
  have mode : modeGiven? (.obj teamFields) = some (.str "force") := by with_unfolding_all rfl
  obtain ⟨readable, _, survives, unordered⟩ := settings_read_and_written distinct plain
  obtain ⟨config, read⟩ := readable.mpr ⟨
    fun v held => .inr (Option.some.inj (held.symm.trans chosen)),
    fun t given => .inr (Json.str.inj (Option.some.inj (given.symm.trans mode)))⟩
  obtain ⟨writable, written⟩ := survives config read
  obtain ⟨v, shown⟩ := writable.mpr ⟨
    fun w held => Option.some.inj (held.symm.trans output) ▸ rfl,
    fun w given => ⟨"force", Option.some.inj (given.symm.trans mode)⟩⟩
  obtain ⟨back, _, kept⟩ := written v shown
  refine ⟨config, v, read, shown, back, (unordered bareFields ?_ ?_ ?_ config).mpr read,
    kept _ _ ?_ (by decide) (by decide)⟩
  · decide
  · have apart : ∀ key ∈ bareFields.map Prod.fst, key ∉ Config.innerKeys := by decide
    exact fun field member => apart _ (List.mem_map_of_mem member)
  · intro key among w
    constructor
    · exact fun member => List.mem_cons_of_mem _ (List.mem_reverse.mpr member)
    · intro member
      rcases List.mem_cons.mp member with same | member
      · obtain ⟨rfl, _⟩ := Prod.mk.inj same
        exact absurd among (by decide)
      · exact List.mem_reverse.mp member
  · exact List.mem_cons_of_mem _ (List.mem_reverse.mpr List.mem_cons_self)

end StructBridge
