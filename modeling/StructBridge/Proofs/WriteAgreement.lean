import StructBridge.Proofs.Overwriting
import StructBridge.Proofs.Places

/-!
Atomic and plain writing compared. Where the directory around a file is there and the draft fits,
both finish with the same tree, or both fail and leave the tree as it was. They fail with the same
fault unless the system stops both; only with a name that the system cannot be asked for does the
one fail before the content is inspected and the other after.
-/
namespace StructBridge
open Schema Code Files Command

namespace Files

namespace Disk

variable {d : Disk} {p q : Path} {l l' : Location} {parts more : List Text}

/-- A way that can be followed for one path can be followed for any. -/
theorem follow_label {path path' : Text} (led : d.follow path l parts = .ok l') :
    d.follow path' l parts = .ok l' := by
  induction parts generalizing l with
  | nil => exact led
  | cons part rest ih =>
    rcases follow_cons_ok.mp led with ⟨up, led⟩ | ⟨down, short, present, led⟩
    · exact follow_cons_ok.mpr (.inl ⟨up, ih led⟩)
    · exact follow_cons_ok.mpr (.inr ⟨down, short, present, ih led⟩)

theorem follow_append {path : Text} {l'' : Location} (led : d.follow path l parts = .ok l')
    (further : d.follow path l' more = .ok l'') : d.follow path l (parts ++ more) = .ok l'' := by
  induction parts generalizing l with
  | nil =>
    obtain rfl := Except.ok.inj led
    exact further
  | cons part rest ih =>
    rcases follow_cons_ok.mp led with ⟨up, led⟩ | ⟨down, short, present, led⟩
    · exact follow_cons_ok.mpr (.inl ⟨up, ih led⟩)
    · exact follow_cons_ok.mpr (.inr ⟨down, short, present, ih led⟩)

theorem parts_of_last {t : Text} (last : p.parts.getLast? = some t) :
    p.parts.dropLast ++ [t] = p.parts := by
  obtain ⟨before, split⟩ := List.getLast?_eq_some_iff.mp last
  rw [split, List.dropLast_concat]

/-- The path of a directory can be followed to where its words lead. -/
theorem follow_directory (present : d.isDirectory q = true) :
    Readable q ∧ ∀ path, d.follow path (d.start q) q.parts = .ok (d.resolve q) := by
  obtain ⟨place, located, looked⟩ := ok_of_bind (look_directory present)
  obtain ⟨readable, leads⟩ := locate_ok.mp located
  refine ⟨readable, ?_⟩
  suffices leads : ∃ l, ∀ path, d.follow path (d.start q) q.parts = .ok l by
    obtain ⟨l, led⟩ := leads
    obtain rfl : l = d.resolve q := follow_resolves (led q.text)
    exact led
  cases leads with
  | here empty =>
    rw [List.getLast?_eq_none_iff.mp empty]
    exact ⟨d.start q, fun _ => rfl⟩
  | around directory last led => exact ⟨directory, fun _ => follow_label led⟩
  | named directory name last down short led =>
    have held : d.entry? (directory ++ [name]) = some .directory := by
      dsimp only at looked
      split at looked
      · rename_i e found
        rw [found, Except.ok.inj looked]
      · cases looked
    refine ⟨directory ++ [name], fun path => ?_⟩
    rw [← parts_of_last last]
    exact follow_append (follow_label led)
      (follow_cons_ok.mpr (.inr ⟨down, short, held, rfl⟩))

section Drafts

/-- The draft of a file fits into the directory around it. -/
structure DraftFits (d : Disk) (p : Path) : Prop where
  around : d.isDirectory p.parent = true
  name : longerThan nameLimit (draftName p.name 0) = false
  path : longerThan pathLimit (d.draftPath p).text = false

theorem nameSize_draftName (name : Text) :
    (draftName name 0).nameSize? = name.nameSize?.map (· + 14) := by
  have start : Text.nameSize? "." = some 1 := by decide
  have stop : Text.nameSize? ("." ++ draftToken 0 ++ ".tmp") = some 13 := by decide
  have parts : draftName name 0 = "." ++ (name ++ ("." ++ draftToken 0 ++ ".tmp")) := by
    simp only [draftName, List.append_assoc]
  rw [parts, Text.nameSize_append, Text.nameSize_append, start, stop]
  cases name.nameSize? with
  | none => rfl
  | some n =>
    change some (1 + (n + 13)) = some (n + 14)
    congr 1
    omega

theorem askable_draftName {name : Text} : (draftName name 0).Askable ↔ name.Askable := by
  have start : Text.Askable "." := ⟨by decide, by decide⟩
  have stop : Text.Askable ("." ++ draftToken 0 ++ ".tmp") := ⟨by decide, by decide⟩
  have parts : draftName name 0 = "." ++ (name ++ ("." ++ draftToken 0 ++ ".tmp")) := by
    simp only [draftName, List.append_assoc]
  rw [parts, Text.askable_append, Text.askable_append]
  exact ⟨fun askable => askable.2.1, fun askable => ⟨start, askable, stop⟩⟩

/-- Where the name of a draft is short enough, so is that of the file. -/
theorem shorter_name {limit : Nat} {name : Text}
    (short : longerThan limit (draftName name 0) = false) : longerThan limit name = false := by
  unfold longerThan at short ⊢
  rw [nameSize_draftName] at short
  cases size : name.nameSize? with
  | none => rfl
  | some n =>
    rw [size] at short
    have within : ¬limit < n + 14 := of_decide_eq_false short
    have shorter : ¬limit < n := by omega
    exact decide_eq_false shorter

theorem readable_iff : Readable p ↔ p.text.Askable ∧ longerThan pathLimit p.text = false := by
  constructor
  · rintro ⟨encodes, clean, short⟩
    exact ⟨⟨Option.isNone_eq_false_iff.mp encodes |> Option.isSome_iff_ne_none.mp,
      by simpa using clean⟩, short⟩
  · rintro ⟨⟨sized, clean⟩, short⟩
    exact ⟨Option.isNone_eq_false_iff.mpr (Option.isSome_iff_ne_none.mpr sized),
      by simpa using clean, short⟩

theorem locate_unaskable {name : Text} (around : q.around.Askable) (unaskable : ¬name.Askable) :
    d.locate (q.child name) =
      .error (if name.nameSize? = none then .unencodable else .nullInPath) := by
  obtain ⟨m, size⟩ := Option.ne_none_iff_exists'.mp around.sized
  rw [locate, Path.text_child, Text.nameSize_append, size]
  cases given : name.nameSize? with
  | none => rfl
  | some n =>
    have null : .char '\x00' ∈ name := by
      by_contra clean
      exact unaskable ⟨by rw [given]; exact Option.some_ne_none n, clean⟩
    have held : (q.around ++ name).contains (.char '\x00') = true := by
      rw [List.contains_iff_mem]
      exact List.mem_append_right _ null
    rw [held]
    rfl

/-- A path that is too long leads nowhere, on whatever disk. -/
theorem locate_long (askable : p.text.Askable) (long : longerThan pathLimit p.text = true) :
    d.locate p = .error (.nameTooLong p.text) := by
  have encodes : p.text.nameSize?.isNone = false :=
    Option.isNone_eq_false_iff.mpr (Option.isSome_iff_ne_none.mpr askable.sized)
  have clean : p.text.contains (.char '\x00') = false := by simpa using askable.clean
  simp only [locate, encodes, clean, long, Bool.false_eq_true, ↓reduceIte]

/-- A directory that is found along a path can be stood in. -/
theorem stands_resolve (working : Stands d d.workingDirectory) (present : d.isDirectory q = true) :
    Stands d (d.resolve q) := by
  obtain ⟨readable, led⟩ := follow_directory present
  have askable := Path.text_askable.mp (readable_iff.mp readable).1
  exact (working.start q).of_follow askable (led q.text)

theorem draftPath_start : d.start (d.draftPath p) = [] := by
  have rooted : (d.draftPath p).root ≠ .none := by
    change (if p.parent.root = .double then Root.double else .single) ≠ .none
    split <;> exact nofun
  rw [start, if_neg rooted]

section Fitting

variable (fits : DraftFits d p)
include fits

theorem around_readable : p.parent.around.Askable :=
  Path.around_askable.mpr
    (Path.text_askable.mp (readable_iff.mp (follow_directory fits.around).1).1)

variable (working : Stands d d.workingDirectory)
include working

theorem draft_around : (d.absolute p.parent).around.Askable := by
  have stands := stands_resolve working fits.around
  exact Path.around_askable.mpr fun part member => (stands.names part member).askable

theorem draft_located (askable : p.name.Askable) : ∃ l,
    d.locate (d.draftPath p) = .ok (.named l (draftName p.name 0)) := by
  have stands := stands_resolve working fits.around
  have readable : Readable (d.draftPath p) := by
    refine readable_iff.mpr ⟨?_, fits.path⟩
    rw [draftPath, Path.text_child]
    exact Text.askable_append.mpr ⟨draft_around fits working, askable_draftName.mpr askable⟩
  have down : draftName p.name 0 ≠ ".." := by
    intro same
    have longer := congrArg List.length same
    simp [draftName, Text.ofString] at longer
    omega
  let directory := d.resolve p.parent
  refine ⟨directory, locate_ok.mpr
    ⟨readable, .named directory _ List.getLast?_concat down fits.name ?_⟩⟩
  rw [draftPath_start]
  change d.follow _ [] (d.resolve p.parent ++ [draftName p.name 0]).dropLast = _
  rw [List.dropLast_concat]
  exact stands.follow _

omit working

/-- The file leads to a place, or its path is too long to be asked for on any disk. -/
theorem place_located (askable : p.name.Askable) :
    (∃ place, d.locate p = .ok place) ∨ p.text.Askable ∧ longerThan pathLimit p.text = true := by
  obtain ⟨readable, led⟩ := follow_directory fits.around
  cases last : p.parts.getLast? with
  | none =>
    -- A path of no components is its own parent.
    have itself : p.parent = p := by
      obtain ⟨root, parts⟩ := p
      obtain rfl : parts = [] := List.getLast?_eq_none_iff.mp last
      rfl
    exact .inl ⟨_, locate_ok.mpr ⟨itself ▸ readable, .here last⟩⟩
  | some name =>
    have present : p.parts ≠ [] := by
      intro empty
      rw [empty] at last
      cases last
    have text : p.text = p.parent.around ++ p.name := by
      rw [← Path.text_child, Path.child_parent present]
    have readable' : p.text.Askable := by
      rw [text]
      exact Text.askable_append.mpr ⟨around_readable fits, askable⟩
    cases long : longerThan pathLimit p.text with
    | true => exact .inr ⟨readable', rfl⟩
    | false =>
      have readable : Readable p := readable_iff.mpr ⟨readable', long⟩
      refine .inl ?_
      by_cases up : name = ".."
      · subst up
        let above := (d.resolve p.parent).dropLast
        refine ⟨.unnamed above, locate_ok.mpr ⟨readable, .around above last ?_⟩⟩
        rw [← parts_of_last last]
        exact follow_append (led _) (follow_cons_ok.mpr (.inl ⟨rfl, rfl⟩))
      · have called : p.name = name := by rw [Path.name, last, Option.getD_some]
        have short : longerThan nameLimit name = false := called ▸ shorter_name fits.name
        exact ⟨_, locate_ok.mpr ⟨readable, .named _ name last up short (led _)⟩⟩

include working

theorem same_fault (unaskable : ¬p.name.Askable) : ∃ fault,
    (fault = .nullInPath ∨ fault = .unencodable) ∧ d.locate p = .error fault ∧
      d.locate (d.draftPath p) = .error fault := by
  have around := around_readable fits
  have present : p.parts ≠ [] := by
    intro empty
    refine unaskable ?_
    rw [Path.name, empty]
    exact ⟨by decide, by decide⟩
  refine ⟨if p.name.nameSize? = none then .unencodable else .nullInPath, ?_, ?_, ?_⟩
  · split
    · exact .inr rfl
    · exact .inl rfl
  · have located := locate_unaskable (d := d) around unaskable
    rw [Path.child_parent present] at located
    exact located
  · have unaskable' : ¬(draftName p.name 0).Askable := fun askable =>
      unaskable (askable_draftName.mp askable)
    rw [draftPath, locate_unaskable (draft_around fits working) unaskable', nameSize_draftName]
    simp only [Option.map_eq_none_iff]

end Fitting

end Drafts

/-- Taking a draft away leaves the tree as it was before. -/
theorem remove_put {e : Entry} (below : l ≠ []) (free : d.entry? l = none) :
    (d.put l e).remove l = d := by
  unfold entry? at free
  rw [if_neg below] at free
  obtain ⟨entries, working⟩ := d
  simp only [put, remove]
  exact congrArg (Disk.mk · working) (setKey_without free)

/-- How the faults of an atomic and of a plain write may differ. -/
inductive FaultsAgree (p : Path) : Fault → Fault → Prop
  | same (fault : Fault) : FaultsAgree p fault fault
  | system (fault fault' : SystemFault) : FaultsAgree p (.system fault) (.system fault')
  | unasked (fault : SystemFault) (reason : Rejection) (unaskable : ¬p.name.Askable)
      (name : fault = .nullInPath ∨ fault = .unencodable) :
      FaultsAgree p (.system fault) (.rejected reason)

/-- Two writes that both finish with the same tree, or both fail and leave the tree. -/
inductive Agree (d : Disk) (p : Path) (atomic plain : Writing) : Prop
  | finished (done : atomic.result = .ok ()) (done' : plain.result = .ok ())
      (same : atomic.disk = plain.disk)
  | failed (fault fault' : Fault) (stopped : atomic.result = .error fault)
      (stopped' : plain.result = .error fault') (kept : atomic.disk = d) (kept' : plain.disk = d)
      (alike : FaultsAgree p fault fault')

theorem agree_unlessFound {atomic plain : Writing} (agree : Agree d p atomic plain) :
    Agree d p (d.unlessFound p atomic) (d.unlessFound p plain) := by
  unfold unlessFound
  split
  · exact .failed _ _ rfl rfl rfl rfl (.same _)
  · exact .failed _ _ rfl rfl rfl rfl (.same _)
  · exact agree

section Contents

variable {content : Text} {encoded : String} {validate : Bool} {draft : Location}

/-- A draft can be moved onto a place exactly where the place can be written. -/
theorem move_of_writable
    (located : (∃ place, d.locate p = .ok place) ∨
      p.text.Askable ∧ longerThan pathLimit p.text = true)
    (chosen : d.draftOf p = .ok draft) :
    (∃ l, d.writable p = .ok l ∧
      (d.put draft (.file encoded)).moveFile draft p = .ok (d.put l (.file encoded))) ∨
    ∃ fault fault', d.writable p = .error fault ∧
      (d.put draft (.file encoded)).moveFile draft p = .error fault' := by
  obtain ⟨below, free, apart⟩ := draftOf_apart chosen
  have filled : Filled d draft encoded (d.put draft (.file encoded)) :=
    filled_put below (by simp [free])
  rcases located with ⟨place, located⟩ | ⟨askable, long⟩
  case inr =>
    rw [moveFile, writable, locate_long askable long, locate_long askable long]
    exact .inr ⟨_, _, rfl, rfl⟩
  have located' := locate_kept filled.keeps located
  rw [moveFile, writable, located, located']
  cases place with
  | unnamed directory => exact .inr ⟨_, _, rfl, rfl⟩
  | named directory name =>
    have called : name = p.name := by simp [Path.name, (locate_named located).1]
    -- The draft has another name than the file, which is therefore found as it was.
    have other : directory ++ [name] ≠ draft := called ▸ (apart directory).symm
    have drafted : entry? (d.put draft (.file encoded)) draft = some (.file encoded) := by
      rw [filled.entries, if_pos rfl]
    have target : entry? (d.put draft (.file encoded)) (directory ++ [name]) =
        d.entry? (directory ++ [name]) := by
      rw [filled.entries, if_neg other]
    simp only [ok_bind, drafted, target, remove_put below free]
    cases d.entry? (directory ++ [name]) with
    | none => exact .inl ⟨_, rfl, rfl⟩
    | some e =>
      cases e with
      | file old => exact .inl ⟨_, rfl, rfl⟩
      | directory => exact .inr ⟨_, _, rfl, rfl⟩

section Drafted

variable (around : d.isDirectory p.parent = true) (chosen : d.draftOf p = .ok draft)
  (given : content.string? = some encoded)
include around chosen given

theorem atomic_rejected {reason : Rejection} (found : verdict content validate = some reason) :
    d.writeAtomically .standard p content validate = ⟨d, validate, .error (.rejected reason)⟩ := by
  obtain ⟨below, free, _⟩ := draftOf_apart chosen
  have cleared : (d.put draft (.file encoded)).remove draft = d := remove_put below free
  unfold verdict at found
  rw [writeAtomically, ensureDirectory_present around]
  simp only [chosen, given, Inspection.standard, Bool.and_false, Bool.false_eq_true, ↓reduceIte,
    found, cleared]

theorem atomic_stopped {fault : SystemFault} (passes : verdict content validate = none)
    (run : (d.put draft (.file encoded)).moveFile draft p = .error fault) :
    d.writeAtomically .standard p content validate = ⟨d, validate, .error (.system fault)⟩ := by
  obtain ⟨below, free, _⟩ := draftOf_apart chosen
  have cleared : (d.put draft (.file encoded)).remove draft = d := remove_put below free
  unfold verdict at passes
  rw [writeAtomically, ensureDirectory_present around]
  simp only [chosen, given, Inspection.standard, Bool.and_false, Bool.false_eq_true, ↓reduceIte,
    passes, run, cleared]

end Drafted

theorem plain_rejected {reason : Rejection} (found : verdict content validate = some reason) :
    d.writeInPlace p content validate = ⟨d, validate, .error (.rejected reason)⟩ := by
  unfold verdict at found
  rw [writeInPlace, found]

theorem plain_stopped {fault : SystemFault} (passes : verdict content validate = none)
    (refused : d.writable p = .error fault) :
    d.writeInPlace p content validate = ⟨d, validate, .error (.system fault)⟩ := by
  unfold verdict at passes
  rw [writeInPlace, passes, refused]

theorem drafted_writes_agree (around : d.isDirectory p.parent = true)
    (located : (∃ place, d.locate p = .ok place) ∨
      p.text.Askable ∧ longerThan pathLimit p.text = true)
    (chosen : d.draftOf p = .ok draft) (given : content.string? = some encoded) :
    Agree d p (d.writeAtomically .standard p content validate)
      (d.writeInPlace p content validate) := by
  cases found : verdict content validate with
  | some reason =>
    rw [atomic_rejected around chosen given found, plain_rejected found]
    exact .failed _ _ rfl rfl rfl rfl (.same _)
  | none =>
    rcases move_of_writable located chosen with ⟨l, allowed, run⟩ | ⟨fault, fault', refused, run⟩
    · rw [atomic_moved around chosen given found run, plain_written found allowed given]
      exact .finished rfl rfl rfl
    · rw [atomic_stopped around chosen given found run, plain_stopped found refused]
      exact .failed _ _ rfl rfl rfl rfl (.system _ _)

theorem atomic_undrafted {fault : SystemFault} (around : d.isDirectory p.parent = true)
    (undrafted : d.draftOf p = .error fault) :
    d.writeAtomically .standard p content validate = .failed d (.system fault) := by
  rw [writeAtomically, ensureDirectory_present around]
  simp only [undrafted]

/-- Where the draft cannot be made, the plain write may come to inspect the content before. -/
theorem undrafted_writes_agree (working : Stands d d.workingDirectory) (fits : DraftFits d p)
    (unaskable : ¬p.name.Askable) :
    Agree d p (d.writeAtomically .standard p content validate)
      (d.writeInPlace p content validate) := by
  obtain ⟨fault, which, located, drafted⟩ := same_fault fits working unaskable
  have undrafted : d.draftOf p = .error fault := by
    rw [draftOf, drafted]
    rfl
  have refused : d.writable p = .error fault := by
    rw [writable, located]
    rfl
  rw [atomic_undrafted fits.around undrafted]
  cases found : verdict content validate with
  | some reason =>
    rw [plain_rejected found]
    exact .failed _ _ rfl rfl rfl rfl (.unasked fault reason unaskable which)
  | none =>
    rw [plain_stopped found refused]
    exact .failed _ _ rfl rfl rfl rfl (.same _)

theorem writes_agree (working : Stands d d.workingDirectory) (fits : DraftFits d p)
    (given : content.string? = some encoded) :
    Agree d p (d.writeAtomically .standard p content validate)
      (d.writeInPlace p content validate) := by
  by_cases askable : p.name.Askable
  · obtain ⟨l, drafted⟩ := draft_located fits working askable
    obtain ⟨draft, chosen⟩ : ∃ draft, d.draftOf p = .ok draft := by
      rw [draftOf, drafted]
      exact ⟨_, rfl⟩
    exact drafted_writes_agree fits.around (place_located fits askable) chosen given
  · exact undrafted_writes_agree working fits askable

end Contents

end Disk

end Files

namespace Generator

/-- The generator with the output settings changed, to write atomically or plainly. -/
def writing (g : Generator) (s : OutputSettings) (atomic : Bool) : Generator :=
  let output : OutputSettings := { s with atomicWrite := .bool atomic }
  { g with config := { g.config with output := some (.settings output) } }

theorem header_writing (g : Generator) (s : OutputSettings) (atomic : Bool)
    (invocation : Option Invocation) :
    (g.writing s atomic).header invocation = g.header invocation := rfl

end Generator

section Agreement
open Files.Disk

variable {g : Generator} {s : OutputSettings} {d : Disk} {p : Path} {invocation : Option Invocation}

theorem write_agrees (working : Stands d d.workingDirectory) (fits : DraftFits d p)
    (encodes : ∀ content, g.header invocation = .ok content → content.string? ≠ none) :
    Agree d p ((g.writing s true).write invocation d p)
      ((g.writing s false).write invocation d p) := by
  rw [Generator.write, Generator.write, Generator.header_writing, Generator.header_writing]
  cases coded : g.header invocation with
  | error fault => exact .failed _ _ rfl rfl rfl rfl (.same _)
  | ok content =>
    obtain ⟨encoded, given⟩ := Option.ne_none_iff_exists'.mp (encodes content coded)
    let validate := s.validateBeforeWrite.truthy
    have agree : Agree d p (d.writeAtomically .standard p content validate)
        (d.writeInPlace p content validate) := writes_agree working fits given
    change Agree d p
      (if keeps s.mode then d.unlessFound p (d.writeAtomically .standard p content validate)
        else d.writeAtomically .standard p content validate)
      (if keeps s.mode then d.unlessFound p (d.writeInPlace p content validate)
        else d.writeInPlace p content validate)
    cases keeps s.mode with
    | true => exact agree_unlessFound agree
    | false => exact agree

/-- Atomic and plain writing finish with the same tree or both leave the tree as it was. A fault
that is not the system's stops both alike, except where the system cannot be asked for the name:
there the atomic write fails first, and the plain one may fail with what the inspection finds. -/
theorem atomic_and_plain_agree (working : Stands d d.workingDirectory) (fits : DraftFits d p)
    (encodes : ∀ content, g.header invocation = .ok content → content.string? ≠ none) :
    let atomic := (g.writing s true).write invocation d p
    let plain := (g.writing s false).write invocation d p
    (atomic.result = .ok () ∧ plain.result = .ok () ∧ atomic.disk = plain.disk ∨
      atomic.result ≠ .ok () ∧ plain.result ≠ .ok () ∧ atomic.disk = d ∧ plain.disk = d) ∧
    ∀ fault, (∀ f, fault ≠ .system f) →
      (atomic.result = .error fault → plain.result = .error fault) ∧
      (plain.result = .error fault → atomic.result = .error fault ∨
        ¬p.name.Askable ∧ (∃ reason, fault = .rejected reason) ∧
          ∃ f, (f = .nullInPath ∨ f = .unencodable) ∧ atomic.result = .error (.system f)) := by
  intro atomic plain
  have agree : Agree d p atomic plain := write_agrees working fits encodes
  cases agree with
  | finished done done' same =>
    refine ⟨.inl ⟨done, done', same⟩, fun fault _ => ?_⟩
    rw [done, done']
    exact ⟨nofun, nofun⟩
  | failed fault fault' stopped stopped' kept kept' alike =>
    rw [stopped, stopped']
    refine ⟨.inr ⟨nofun, nofun, kept, kept'⟩, fun other own => ?_⟩
    cases alike with
    | same => exact ⟨id, .inl⟩
    | system f f' =>
      exact ⟨fun same => absurd (Except.error.inj same).symm (own f),
        fun same => absurd (Except.error.inj same).symm (own f')⟩
    | unasked f reason unaskable name =>
      refine ⟨fun same => absurd (Except.error.inj same).symm (own f), fun same => .inr ?_⟩
      exact ⟨unaskable, ⟨reason, (Except.error.inj same).symm⟩, f, name, rfl⟩

def forcing : OutputSettings := { OutputSettings.standard with mode := .mode .force }

theorem forced_atomic {content : Text} (coded : g.header none = .ok content) (d : Disk) (p : Path) :
    (g.writing forcing true).write none d p = d.writeAtomically .standard p content true := by
  rw [Generator.write, Generator.header_writing, coded]
  rfl

theorem forced_plain {content : Text} (coded : g.header none = .ok content) (d : Disk) (p : Path) :
    (g.writing forcing false).write none d p = d.writeInPlace p content true := by
  rw [Generator.write, Generator.header_writing, coded]
  rfl

theorem emptyMaps_header (mode : ModeSetting) :
    ∃ content, (emptyMaps mode).header none = .ok content ∧ content.string? ≠ none ∧
      Code.rejection? content = none := by
  refine ⟨headerText .folly [] ("// Generated by objc_struct_codegen v1.0.0 : " ++
    lineText programName none), rfl, ?_⟩
  unfold headerText opening commentText importText requiredImports OptionalStyle.importName closing
    lineText programName
  repeat rw [Text.ofString_literal]
  decide +kernel

theorem forced_writes_agree :
    let g := emptyMaps (.mode .keep)
    ((g.writing forcing true).write none taken takenPath).result = .ok () ∧
      ((g.writing forcing true).write none taken takenPath).disk =
        ((g.writing forcing false).write none taken takenPath).disk := by
  intro g
  have fits : DraftFits taken takenPath :=
    ⟨by with_unfolding_all rfl, by decide, by decide⟩
  obtain ⟨content, header, encodes, passes⟩ := emptyMaps_header (.mode .keep)
  obtain ⟨encoded, given⟩ := Option.ne_none_iff_exists'.mp encodes
  have done : ((g.writing forcing false).write none taken takenPath).result = .ok () := by
    have writable : taken.writable takenPath = .ok ["maps.h"] := by with_unfolding_all rfl
    rw [forced_plain header,
      plain_written (show verdict content true = none from passes) writable given]
  have only : ∀ content, g.header none = .ok content → content.string? ≠ none := by
    intro content' made
    obtain rfl := Except.ok.inj (header.symm.trans made)
    exact encodes
  obtain ⟨⟨finished, _, same⟩ | ⟨_, unfinished, _⟩, _⟩ :=
    atomic_and_plain_agree (.root taken) fits only
  · exact ⟨finished, same⟩
  · exact absurd done unfinished

/-- A name that no file can have, since it holds a null character. -/
def nullPath : Path := Path.ofText "maps\x00.h"

/-- A generator whose header has braces that are not closed. -/
def bracedMaps : Generator :=
  ⟨⟨.str "Maps", [⟨.regular, .str "\x7b", []⟩]⟩, .style .folly,
    { Config.standard with addGenerationComment := .bool false }⟩

/-- The atomic write fails with the name, the plain one with what the inspection finds. -/
theorem null_name_fails_apart :
    DraftFits taken nullPath ∧
      (∃ content, bracedMaps.header none = .ok content ∧ content.string? ≠ none) ∧
      ((bracedMaps.writing forcing true).write none taken nullPath).result =
        .error (.system .nullInPath) ∧
      ((bracedMaps.writing forcing false).write none taken nullPath).result =
        .error (.rejected (.unbalancedBraces 8 4)) := by
  have fits : DraftFits taken nullPath :=
    ⟨by with_unfolding_all rfl, by decide, by decide⟩
  obtain ⟨content, coded, encodes, rejected⟩ : ∃ content, bracedMaps.header none = .ok content ∧
      content.string? ≠ none ∧ Code.rejection? content = some (.unbalancedBraces 8 4) := by
    refine ⟨headerText .folly [⟨declarationText "Maps" "\x7b" [], ""⟩] "",
      by with_unfolding_all rfl, ?_⟩
    unfold headerText opening importText requiredImports OptionalStyle.importName closing
      declarationText
    repeat rw [Text.ofString_literal]
    decide +kernel
  refine ⟨fits, ⟨content, coded, encodes⟩, ?_, ?_⟩
  · have undrafted : taken.draftOf nullPath = .error .nullInPath := by with_unfolding_all rfl
    rw [forced_atomic coded, atomic_undrafted fits.around undrafted]
    rfl
  · rw [forced_plain coded, plain_rejected (show verdict content true = some _ from rejected)]

section Depths

variable {trail k : Location}

/-- Directories one in the other, with the call in the last of them. -/
def trailDisk (trail : Location) : Disk :=
  ⟨(Path.beginnings trail).map fun k => (k, .directory), trail⟩

theorem trailDisk_directory (begins : k <+: trail) :
    Disk.entry? (trailDisk trail) k = some .directory := by
  unfold entry?
  split
  · rfl
  · exact List.lookup_graph (fun _ => Entry.directory) (mem_beginnings.mpr begins)

theorem trailDisk_free (beyond : ¬k <+: trail) : Disk.entry? (trailDisk trail) k = none := by
  have below : k ≠ [] := by
    rintro rfl
    exact beyond List.nil_prefix
  unfold entry?
  rw [if_neg below, List.lookup_eq_none_iff]
  intro entry among
  obtain ⟨j, begins, rfl⟩ := List.mem_map.mp among
  have apart : k ≠ j := by
    rintro rfl
    exact beyond (mem_beginnings.mp begins)
  simpa using apart

theorem trailDisk_stands (names : ∀ part ∈ trail, IsName part) : Stands (trailDisk trail) trail :=
  ⟨fun _ begins => trailDisk_directory begins, names⟩

theorem nameSize_replicate (n : Nat) : Text.nameSize? (List.replicate n (.char 'd')) = some n := by
  induction n with
  | zero => rfl
  | succ n ih =>
    have size : 'd'.utf8Size = 1 := by decide
    rw [List.replicate_succ, Text.nameSize?, ih, size, Option.map_some, Nat.add_comm]

theorem nameSize_around {part : Text} {m : Nat} (size : part.nameSize? = some m) (n : Nat) :
    (absolutePath (List.replicate n part)).around.nameSize? = some (n * (m + 1) + 1) := by
  induction n with
  | zero =>
    rw [Nat.zero_mul]
    rfl
  | succ n ih =>
    have slash : Text.nameSize? "/" = some 1 := by decide
    have grown : (absolutePath (List.replicate (n + 1) part)).around =
        (absolutePath (List.replicate n part)).around ++ part ++ "/" := by
      rw [List.replicate_succ']
      exact Path.around_child (absolutePath (List.replicate n part)) part
    rw [grown, Text.nameSize_append, Text.nameSize_append, ih, size, slash, Nat.succ_mul]
    simp only [Option.bind_some, Option.map_some, Option.some.injEq]
    omega

/-- A short path, of a file where the call stands. -/
def shortPath : Path := ⟨.none, ["a.h"]⟩

theorem trailDisk_undrafted {m : Nat} (stands : Stands (trailDisk trail) trail)
    (size : (absolutePath trail).around.nameSize? = some m) (deep : pathLimit < m + 17) :
    ∃ path, (trailDisk trail).draftOf shortPath = .error (.nameTooLong path) := by
  have around : (trailDisk trail).absolute shortPath.parent = absolutePath trail := rfl
  have called : shortPath.name = "a.h" := rfl
  have draft : Text.nameSize? (draftName "a.h" 0) = some 17 := by decide
  have askable : ((trailDisk trail).draftPath shortPath).text.Askable := by
    refine Path.text_askable.mpr (List.forall_mem_append.mpr ⟨fun part member => ?_, ?_⟩)
    · exact (stands.names part member).askable
    · exact List.forall_mem_singleton.mpr ⟨by decide, by decide⟩
  have long : longerThan pathLimit ((trailDisk trail).draftPath shortPath).text = true := by
    rw [longerThan, draftPath, Path.text_child, around, called, Text.nameSize_append, draft, size]
    exact decide_eq_true deep
  rw [draftOf, locate_long askable long]
  exact ⟨_, rfl⟩

theorem trailDisk_writable (trail : Location) :
    (trailDisk trail).writable shortPath = .ok (trail ++ [Text.ofString "a.h"]) := by
  have located : (trailDisk trail).locate shortPath = .ok (.named trail "a.h") :=
    locate_ok.mpr ⟨⟨by decide, by decide, by decide⟩,
      .named trail "a.h" rfl (by decide) (by decide) rfl⟩
  have free : Disk.entry? (trailDisk trail) (trail ++ [Text.ofString "a.h"]) = none := by
    apply trailDisk_free
    intro begins
    have shorter := begins.length_le
    rw [List.length_append, List.length_singleton] at shorter
    omega
  rw [writable, located, ok_bind]
  simp only [free]
  rfl

/-- The draft fails with the length of its path, and the plain write has none to make. -/
theorem trailDisk_fails_apart {m : Nat} (stands : Stands (trailDisk trail) trail)
    (size : (absolutePath trail).around.nameSize? = some m) (deep : pathLimit < m + 17) :
    let g := emptyMaps (.mode .keep)
    let d := trailDisk trail
    d.isDirectory shortPath.parent = true ∧
      longerThan nameLimit (draftName shortPath.name 0) = false ∧
      (∃ content, g.header none = .ok content ∧ content.string? ≠ none) ∧
      (∃ path, ((g.writing forcing true).write none d shortPath).result =
        .error (.system (.nameTooLong path))) ∧
      ((g.writing forcing false).write none d shortPath).result = .ok () := by
  intro g d
  obtain ⟨content, header, encodes, passes⟩ := emptyMaps_header (.mode .keep)
  obtain ⟨encoded, given⟩ := Option.ne_none_iff_exists'.mp encodes
  have around : d.isDirectory shortPath.parent = true := rfl
  refine ⟨around, by decide, ⟨content, header, encodes⟩, ?_, ?_⟩
  · obtain ⟨path, undrafted⟩ := trailDisk_undrafted stands size deep
    refine ⟨path, ?_⟩
    rw [forced_atomic header, atomic_undrafted around undrafted]
    rfl
  · rw [forced_plain header, plain_written (show verdict content true = none from passes)
      (trailDisk_writable trail) given]

def deepName : Text := List.replicate 254 (.char 'd')

/-- A place whose path has just room for the name of a file, and not for that of its draft. -/
def deepTrail : Location := List.replicate 16 deepName

theorem deepName_size : deepName.nameSize? = some 254 := nameSize_replicate 254

theorem deepTrail_stands : Stands (trailDisk deepTrail) deepTrail := by
  refine trailDisk_stands fun part member => ?_
  rw [List.eq_of_mem_replicate member]
  refine ⟨⟨?_, ?_⟩, ?_, ?_⟩
  · rw [deepName_size]
    exact Option.some_ne_none _
  · intro member
    cases List.eq_of_mem_replicate member
  · rw [longerThan, deepName_size]
    rfl
  · intro same
    have lengths := congrArg List.length same
    rw [deepName, List.length_replicate] at lengths
    cases lengths

end Depths

/-- Two ways in which the writes differ: over a name that holds a null character, and in a place
where the path of the draft is too long. -/
theorem drafts_fail_apart :
    (DraftFits taken nullPath ∧
      (∃ content, bracedMaps.header none = .ok content ∧ content.string? ≠ none) ∧
      ((bracedMaps.writing forcing true).write none taken nullPath).result =
        .error (.system .nullInPath) ∧
      ((bracedMaps.writing forcing false).write none taken nullPath).result =
        .error (.rejected (.unbalancedBraces 8 4))) ∧
    let g := emptyMaps (.mode .keep)
    let d := trailDisk deepTrail
    Stands d d.workingDirectory ∧ d.isDirectory shortPath.parent = true ∧
      longerThan nameLimit (draftName shortPath.name 0) = false ∧
      (∃ content, g.header none = .ok content ∧ content.string? ≠ none) ∧
      (∃ path, ((g.writing forcing true).write none d shortPath).result =
        .error (.system (.nameTooLong path))) ∧
      ((g.writing forcing false).write none d shortPath).result = .ok () :=
  ⟨null_name_fails_apart, deepTrail_stands,
    trailDisk_fails_apart deepTrail_stands (nameSize_around deepName_size 16) (by decide)⟩

end Agreement

end StructBridge
