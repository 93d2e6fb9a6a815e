import StructBridge.Proofs.Refusal
import StructBridge.Proofs.WriteSafety

/-!
Which settings let a write replace a file that is there already. The force mode does, and so does
any mode that is no text, since only texts are checked against the two modes. Under all other
settings the write fails and the disk stays as it was.
-/
namespace StructBridge
open Schema Code Files Command

/-- The mode that settings give, where they give one. -/
def modeGiven? (settings : Json) : Option Json := (settings.field? "output").bind (·.field? "mode")

namespace Config

variable {config config' : Config} {s : OutputSettings} {key : Text} {v : Json}

theorem ofRecord_output (fields : List (Text × Json)) :
    (ofRecord fields).output ≠ some (.settings s) := by
  unfold ofRecord
  cases fields.lookup outputKey <;> simp

/-- A key that is put unread leaves the output settings, or leaves none that were read. -/
theorem put_output (run : config.put key v = .ok config')
    (held : config'.output = some (.settings s)) : config.output = some (.settings s) := by
  unfold put at run
  iterate 4
    rcases ok_of_ite run with run | run
    · cases run
      exact held
  rcases ok_of_ite run with run | run
  · cases run
    cases held
  rcases ok_of_ite run with run | run
  · cases run
    exact held
  rcases ok_of_ite run with run | run
  · cases run
  rcases ok_of_ite run with run | run
  · cases run
  rcases ok_of_ite run with run | run
  · split at run
    · cases run
      exact absurd held (ofRecord_output _)
    · cases run
  · cases run
    exact held

theorem read_output (run : config.read key v = .ok config')
    (held : config'.output = some (.settings s)) :
    config.output = some (.settings s) ∨ key = outputKey ∧ OutputSettings.ofJson v = .ok s := by
  unfold read at run
  split at run
  · obtain ⟨style, _, rfl⟩ := ok_of_map run
    exact .inl held
  split at run
  · rename_i output
    obtain ⟨s', given, rfl⟩ := ok_of_map run
    obtain rfl : s' = s := by simpa using held
    exact .inr ⟨output.1, given⟩
  split at run
  · exact .inl (put_output run held)
  · obtain rfl := Except.ok.inj run
    exact .inl held

theorem readAll_output {fields : List (Text × Json)} (run : config.readAll fields = .ok config')
    (held : config'.output = some (.settings s)) :
    config.output = some (.settings s) ∨
      ∃ v, (outputKey, v) ∈ fields ∧ OutputSettings.ofJson v = .ok s := by
  induction fields generalizing config with
  | nil =>
    obtain rfl := Except.ok.inj run
    exact .inl held
  | cons field rest ih =>
    obtain ⟨key, v⟩ := field
    obtain ⟨next, here, run⟩ := ok_of_bind run
    rcases ih run with before | ⟨w, member, given⟩
    · rcases read_output here before with first | ⟨rfl, given⟩
      · exact .inl first
      · exact .inr ⟨v, by simp, given⟩
    · exact .inr ⟨w, List.mem_cons_of_mem _ member, given⟩

end Config

theorem OutputMode.label_of_ofLabel {t : Text} {m : OutputMode}
    (found : OutputMode.ofLabel? t = some m) : m.label = t := by
  simpa using List.find?_some found

theorem keeps_of_text {t : Text} {mode : ModeSetting}
    (read : ModeSetting.ofJson (.str t) = .ok mode) (unforced : t ≠ "force") :
    keeps mode = true := by
  unfold ModeSetting.ofJson at read
  dsimp only at read
  split at read
  · rename_i m found
    obtain rfl := Except.ok.inj read
    cases m with
    | keep => rfl
    | force => exact absurd (OutputMode.label_of_ofLabel found).symm unforced
  · cases read

/-- Where settings give a mode, it is a text. -/
def ModeIsText (settings : Json) : Prop := ∀ v, modeGiven? settings = some v → ∃ t, v = .str t

theorem keeps_of_unforced {fields : List (Text × Json)} {config : Config} {s : OutputSettings}
    (distinct : (fields.map Prod.fst).Nodup) (accepted : Config.ofJson (.obj fields) = .ok config)
    (held : config.output = some (.settings s)) (text : ModeIsText (.obj fields))
    (unforced : modeGiven? (.obj fields) ≠ some (.str "force")) : keeps s.mode = true := by
  rcases Config.readAll_output accepted held with standard | ⟨v, member, read⟩
  · obtain rfl : OutputSettings.standard = s := by simpa [Config.standard] using standard
    rfl
  · have found : modeGiven? (.obj fields) = v.field? "mode" := by
      have given : Json.field? (.obj fields) "output" = some v := lookup_of_mem distinct member
      rw [modeGiven?, given, Option.bind_some]
    unfold ModeIsText at text
    rw [found] at text unforced
    obtain ⟨mode, checked, made⟩ := ok_of_bind read
    obtain rfl := Except.ok.inj made
    unfold Json.fieldD at checked
    cases given : v.field? "mode" with
    | none =>
      rw [given] at checked
      exact keeps_of_text checked (by decide)
    | some value =>
      obtain ⟨t, rfl⟩ := text value given
      rw [given] at checked unforced
      exact keeps_of_text checked fun same => unforced (same ▸ rfl)

namespace Files.Disk

theorem found_of_readFile {d : Disk} {p : Path} {content : String}
    (present : d.readFile p = .ok content) : d.found? p = .ok (some (.file content)) := by
  obtain ⟨e, seen, present⟩ := ok_of_bind present
  cases e with
  | directory => cases present
  | file held =>
    obtain rfl := Except.ok.inj present
    rw [found?, seen]

end Files.Disk

/-- A file that is there already is not written over, whatever else is wrong, unless the settings
give the force mode or a mode that is no text. -/
theorem existing_file_kept {fields : List (Text × Json)} {config : Config} {source : Source}
    {nameGiven : Json} {g : Generator} {d : Disk} {p : Path} {old : String}
    (invocation : Option Invocation) (distinct : (fields.map Prod.fst).Nodup)
    (accepted : Config.ofJson (.obj fields) = .ok config)
    (made : Generator.make source nameGiven config = .ok g) (present : d.readFile p = .ok old)
    (text : ModeIsText (.obj fields)) (unforced : modeGiven? (.obj fields) ≠ some (.str "force")) :
    (g.write invocation d p).disk = d ∧
      ∃ fault, (g.write invocation d p).result = .error fault ∧
        ∀ content s, g.header invocation = .ok content → config.output = some (.settings s) →
          fault = .outputExists p.text := by
  obtain ⟨configured, _⟩ := make_settings made
  unfold Generator.write
  cases coded : g.header invocation with
  | error fault => exact ⟨rfl, fault, rfl, fun content s made => nomatch made⟩
  | ok content =>
    rw [configured]
    cases output : config.output with
    | none => exact ⟨rfl, _, rfl, fun content s _ held => nomatch held⟩
    | some setting =>
      cases setting with
      | other v => exact ⟨rfl, _, rfl, fun content s _ held => nomatch held⟩
      | settings s =>
        have kept := keeps_of_unforced distinct accepted output text unforced
        have refused (write : Writing) :
            d.unlessFound p write = .failed d (.outputExists p.text) := by
          rw [Disk.unlessFound, Disk.found_of_readFile present]
        dsimp only
        rw [writeHeader, if_pos kept, refused]
        exact ⟨rfl, _, rfl, fun _ _ _ _ => rfl⟩

/-- A tree with one file, where the header is to go. -/
def taken : Disk := ⟨[(["maps.h"], .file "old")], []⟩

def takenPath : Path := Path.ofText "maps.h"

def emptyMaps (mode : ModeSetting) : Generator :=
  let output : OutputSettings := { OutputSettings.standard with mode }
  ⟨⟨.str "Maps", []⟩, .style .folly, { Config.standard with output := some (.settings output) }⟩

def outputFields (mode : Json) : List (Text × Json) := [("output", .obj [("mode", mode)])]

theorem error_mode_keeps_file :
    Config.ofJson (.obj (outputFields (.str "error"))) = .ok (emptyMaps (.mode .keep)).config ∧
      ((emptyMaps (.mode .keep)).write none taken takenPath).disk = taken ∧
      ((emptyMaps (.mode .keep)).write none taken takenPath).result =
        .error (.outputExists takenPath.text) := by
  let g := emptyMaps (.mode .keep)
  have accepted : Config.ofJson (.obj (outputFields (.str "error"))) = .ok g.config := by
    with_unfolding_all rfl
  have made : Generator.make (.module g.module) .null g.config = .ok g := rfl
  have distinct : ((outputFields (.str "error")).map Prod.fst).Nodup := by decide
  have given : modeGiven? (.obj (outputFields (.str "error"))) = some (.str "error") := by
    with_unfolding_all rfl
  have text : ModeIsText (.obj (outputFields (.str "error"))) := by
    intro v found
    exact ⟨"error", (Option.some.inj (given.symm.trans found)).symm⟩
  have unforced : modeGiven? (.obj (outputFields (.str "error"))) ≠ some (.str "force") := by
    rw [given]
    intro same
    exact absurd (Json.str.inj (Option.some.inj same)) (by decide)
  have present : taken.readFile takenPath = .ok "old" := by with_unfolding_all rfl
  obtain ⟨same, fault, failed, found⟩ :=
    existing_file_kept none distinct accepted made present text unforced
  obtain ⟨content, coded⟩ : ∃ content, g.header none = .ok content := ⟨_, rfl⟩
  rw [found content _ coded rfl] at failed
  exact ⟨accepted, same, failed⟩

/-- A mode that is no text is kept unread, and every mode but the one to keep files overwrites. -/
theorem null_mode_overwrites :
    Config.ofJson (.obj (outputFields .null)) = .ok (emptyMaps (.other .null)).config ∧
      modeGiven? (.obj (outputFields .null)) = some .null ∧
      taken.fileAt? ["maps.h"] = some "old" ∧
      let writing := (emptyMaps (.other .null)).write none taken takenPath
      writing.result.isOk = true ∧ writing.disk.fileAt? ["maps.h"] ≠ some "old" := by
  refine ⟨?_, ?_, ?_, ?_⟩
  · with_unfolding_all rfl
  · with_unfolding_all rfl
  · decide
  · have header : (emptyMaps (.other .null)).header none = .ok (headerText .folly []
        ("// Generated by objc_struct_codegen v1.0.0 : " ++ lineText programName none)) := rfl
    rw [Generator.write, header]
    dsimp only
    unfold headerText opening commentText importText requiredImports OptionalStyle.importName
      closing lineText programName
    repeat rw [Text.ofString_literal]
    decide +kernel

end StructBridge
