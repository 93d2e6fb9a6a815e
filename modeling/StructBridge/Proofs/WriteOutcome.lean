import Mathlib.Data.List.Nodup
import StructBridge.Files.Writer
import StructBridge.Proofs.Growth

/-!
How one write ends. A failed one changes no file, a finished one the file that its path names and no
other; the draft never stays. Both may add directories on the way to the path.
-/
namespace StructBridge.Files

theorem draftToken_injective {j k : Nat} (same : draftToken j = draftToken k) : j = k := by
  unfold draftToken at same
  dsimp only at same
  have digits := (List.map_inj_right fun _ _ => CodePoint.char.inj).mp same
  have values := congrArg (fun cs => Nat.ofDigitChars 10 cs 0) digits
  simpa [Nat.ofDigitChars_append] using values

theorem draftName_injective {name : Text} {j k : Nat} (same : draftName name j = draftName name k) :
    j = k := by
  unfold draftName at same
  exact draftToken_injective (List.append_cancel_left (List.append_cancel_right same))

theorem draftName_ne (name : Text) (k : Nat) : draftName name k ≠ name := by
  intro same
  have longer := congrArg List.length same
  simp [draftName, Text.ofString] at longer
  omega

namespace Disk

theorem mem_entries {d : Disk} {l : Location} {e : Entry} (below : l ≠ [])
    (present : d.entry? l = some e) : l ∈ d.entries.map Prod.fst := by
  unfold entry? at present
  rw [if_neg below] at present
  obtain ⟨before, after, split, _⟩ := List.lookup_eq_some_iff.mp present
  rw [split]
  simp

theorem freeDraftName_free (d : Disk) (directory : Location) (name : Text) :
    ∃ k, d.freeDraftName directory name = draftName name k ∧
      d.entry? (directory ++ [draftName name k]) = none := by
  let candidate (k : Nat) : Location := directory ++ [draftName name k]
  let free (k : Nat) : Bool := (d.entry? (candidate k)).isNone
  cases found : (List.range (d.entries.length + 1)).find? free with
  | some k =>
    refine ⟨k, ?_, ?_⟩
    · change draftName name (((List.range (d.entries.length + 1)).find? free).getD _) = _
      rw [found]
      rfl
    · simpa [free] using List.find?_some found
  | none =>
    have taken : (List.range (d.entries.length + 1)).map candidate ⊆ d.entries.map Prod.fst := by
      intro l member
      obtain ⟨k, among, rfl⟩ := List.mem_map.mp member
      have occupied := List.find?_eq_none.mp found k among
      obtain ⟨e, present⟩ := Option.ne_none_iff_exists'.mp (by simpa [free] using occupied)
      exact mem_entries (by simp [candidate]) present
    have injective : Function.Injective candidate := by
      intro j k same
      exact draftName_injective (by simpa [candidate] using same)
    have distinct : ((List.range (d.entries.length + 1)).map candidate).Nodup :=
      List.Nodup.map injective List.nodup_range
    -- One more name is tried than there are entries to take them.
    have bound := distinct.length_le_of_subset taken
    simp only [List.length_map, List.length_range] at bound
    omega

/-- A draft has a place of its own, under another name than the file. -/
theorem draftOf_apart {d : Disk} {p : Path} {draft : Location} (chosen : d.draftOf p = .ok draft) :
    draft ≠ [] ∧ d.entry? draft = none ∧ ∀ directory, draft ≠ directory ++ [p.name] := by
  obtain ⟨place, located, chosen⟩ := ok_of_bind chosen
  cases place with
  | unnamed directory => cases chosen
  | named directory name =>
    obtain ⟨k, named, free⟩ := freeDraftName_free d directory p.name
    obtain rfl := (Except.ok.inj chosen).symm
    rw [named]
    refine ⟨by simp, free, ?_⟩
    intro directory' same
    obtain ⟨_, same⟩ := List.append_inj' same rfl
    exact draftName_ne p.name k (List.cons.inj same).1

/-- A file has been put where no directory was, and nothing else has changed. -/
structure Filled (d : Disk) (l : Location) (content : String) (d' : Disk) : Prop where
  working : d'.workingDirectory = d.workingDirectory
  room : d.entry? l ≠ some .directory
  entries : ∀ k, d'.entry? k = if k = l then some (.file content) else d.entry? k

theorem Filled.keeps {d d' : Disk} {l : Location} {content : String}
    (filled : Filled d l content d') : Keeps d d' := by
  refine ⟨filled.working, ?_⟩
  intro k present
  have other : k ≠ l := by
    rintro rfl
    exact filled.room present
  rw [filled.entries, if_neg other, present]

theorem Filled.isTree {d d' : Disk} {l : Location} {content : String} {p : Path}
    (filled : Filled d l content d') (named : d'.target? p = some l) (tree : IsTree d) :
    IsTree d' := by
  have keeps := filled.keeps
  constructor
  · rw [filled.working]
    exact keeps.directories _ tree.working
  · intro k name present
    by_cases here : k ++ [name] = l
    · exact target_parent (keeps.open_working tree) (here ▸ named)
    · rw [filled.entries, if_neg here] at present
      exact keeps.directories k (tree.parents k name present)

theorem filled_put {d : Disk} {l : Location} {content : String} (below : l ≠ [])
    (room : d.entry? l ≠ some .directory) : Filled d l content (d.put l (.file content)) :=
  ⟨rfl, room, entry_put below⟩

/-- What a write may have made of the tree by the time it puts the file in place: the directories
around the file, or some of them, or nothing. -/
structure Prepared (d : Disk) (p : Path) (d' : Disk) : Prop where
  grown : Grown p.parent d d'
  spare : ∀ k, entry? (d.ensureDirectory p.parent).1 k = none → d'.entry? k = none

theorem prepared_refl (d : Disk) (p : Path) : Prepared d p d := by
  refine ⟨.refl p.parent d, ?_⟩
  intro k free
  rcases (ensureDirectory_grown d p.parent).entries k with same | ⟨absent, _⟩
  · exact same ▸ free
  · exact absent

theorem prepared_of_entries {d d' : Disk} {p : Path}
    (working : d'.workingDirectory = (d.ensureDirectory p.parent).1.workingDirectory)
    (entries : ∀ k, d'.entry? k = entry? (d.ensureDirectory p.parent).1 k) : Prepared d p d' := by
  have grown := ensureDirectory_grown d p.parent
  refine ⟨grown.trans ⟨working, fun k => .inl (entries k)⟩, ?_⟩
  intro k free
  exact (entries k).trans free

inductive Ends (d : Disk) (p : Path) (content? : Option String) (w : Writing) : Prop
  | refused (fault : Fault) (result : w.result = .error fault) (prepared : Prepared d p w.disk)
  | written (d' : Disk) (l : Location) (content : String) (result : w.result = .ok ())
      (prepared : Prepared d p d') (given : content? = some content)
      (filled : Filled d' l content w.disk) (named : w.disk.target? p = some l)

theorem failed_ends (d : Disk) (p : Path) (content? : Option String) (fault : Fault) :
    Ends d p content? (.failed d fault) :=
  .refused fault rfl (prepared_refl d p)

theorem unlessFound_ends {d : Disk} {p : Path} {content? : Option String} {w : Writing}
    (ends : Ends d p content? w) : Ends d p content? (d.unlessFound p w) := by
  unfold unlessFound
  split
  · exact failed_ends d p content? _
  · exact failed_ends d p content? _
  · exact ends

/-- A place that can be written is one that the path names, and no directory. -/
theorem writable_ok {d : Disk} {p : Path} {l : Location} (allowed : d.writable p = .ok l) :
    l ≠ [] ∧ d.target? p = some l ∧ d.entry? l ≠ some .directory := by
  obtain ⟨place, located, allowed⟩ := ok_of_bind allowed
  cases place with
  | unnamed directory => cases allowed
  | named directory name =>
    dsimp only at allowed
    split at allowed
    · cases allowed
    rename_i room
    obtain rfl := Except.ok.inj allowed
    exact ⟨by simp, target_eq_some_iff.mpr ⟨directory, name, located, rfl⟩, room⟩

/-- Only where a file can be written does it matter whether the content has an encoding. -/
theorem writeInPlace_ends {d : Disk} {p : Path} {content : Text} {validate : Bool}
    (encodes : ∀ l, d.writable p = .ok l → content.string? ≠ none) :
    Ends d p content.string? (d.writeInPlace p content validate) := by
  unfold writeInPlace
  split
  · exact .refused _ rfl (prepared_refl d p)
  split
  · exact .refused _ rfl (prepared_refl d p)
  · rename_i l allowed unencodable
    exact absurd unencodable (encodes l allowed)
  · rename_i l encoded allowed given
    obtain ⟨below, named, room⟩ := writable_ok allowed
    have filled : Filled d l encoded _ := filled_put below room
    exact .written d l encoded rfl (prepared_refl d p) given filled (target_kept filled.keeps named)

theorem moveFile_ok {d moved : Disk} {source : Location} {p : Path}
    (run : d.moveFile source p = .ok moved) :
    ∃ directory name content, d.locate p = .ok (.named directory name) ∧
      d.entry? source = some (.file content) ∧
      d.entry? (directory ++ [name]) ≠ some .directory ∧
      moved = (d.remove source).put (directory ++ [name]) (.file content) := by
  obtain ⟨place, located, run⟩ := ok_of_bind run
  cases place with
  | unnamed directory => cases run
  | named directory name =>
    dsimp only at run
    split at run
    · cases run
    · rename_i content held room
      exact ⟨directory, name, content, located, held, room, (Except.ok.inj run).symm⟩
    · cases run

theorem entry_undrafted {d : Disk} {draft : Location} {e : Entry} (below : draft ≠ [])
    (free : d.entry? draft = none) (k : Location) :
    entry? ((d.put draft e).remove draft) k = d.entry? k := by
  rw [entry_remove below, entry_put below]
  by_cases here : k = draft
  · rw [if_pos here, here, free]
  · rw [if_neg here, if_neg here]

theorem entry_cleared {d : Disk} {draft : Location} {e : Entry} (below : draft ≠ [])
    (free : d.entry? draft = none) (discards : Bool) (k : Location) :
    entry? ((if discards then (d.put draft e).remove draft else d.put draft e).remove draft) k =
      d.entry? k := by
  cases discards with
  | false => exact entry_undrafted below free k
  | true =>
    rw [if_pos rfl, entry_remove below, entry_undrafted below free]
    by_cases here : k = draft
    · rw [if_pos here, here, free]
    · rw [if_neg here]

/-- The draft has gone once the file is in its place, and it was another file. -/
theorem filled_of_move {d moved : Disk} {draft : Location} {p : Path} {content : String}
    (below : draft ≠ []) (free : d.entry? draft = none)
    (other : ∀ directory, draft ≠ directory ++ [p.name])
    (run : (d.put draft (.file content)).moveFile draft p = .ok moved) :
    ∃ l, Filled d l content moved ∧ moved.target? p = some l := by
  obtain ⟨directory, name, held, located, present, room, placed⟩ := moveFile_ok run
  obtain rfl : content = held := by simpa [entry_put below] using present
  have called : name = p.name := by simp [Path.name, (locate_named located).1]
  have apart : directory ++ [name] ≠ draft := by
    rw [called]
    exact (other directory).symm
  rw [entry_put below, if_neg apart] at room
  have filled : Filled d (directory ++ [name]) content moved := by
    refine ⟨by rw [placed]; rfl, room, ?_⟩
    intro k
    rw [placed, entry_put (by simp), entry_undrafted below free]
  refine ⟨_, filled, ?_⟩
  have drafted : Keeps (d.put draft (.file content)) moved := by
    refine ⟨filled.working, ?_⟩
    intro k present
    rw [entry_put below] at present
    split at present
    · cases present
    · exact filled.keeps.directories k present
  exact target_kept drafted (target_eq_some_iff.mpr ⟨directory, name, located, rfl⟩)

theorem writeAtomically_ends {d : Disk} {inspection : Inspection} {p : Path} {content : Text}
    {validate : Bool} :
    Ends d p content.string? (d.writeAtomically inspection p content validate) := by
  unfold writeAtomically
  have ensured : Prepared d p (d.ensureDirectory p.parent).1 :=
    prepared_of_entries rfl fun _ => rfl
  split
  · rename_i made fault run
    rw [run] at ensured
    exact .refused _ rfl ensured
  rename_i made run
  rw [run] at ensured
  split
  · exact .refused _ rfl ensured
  · exact .refused _ rfl ensured
  rename_i draft encoded chosen given
  obtain ⟨below, free, other⟩ := draftOf_apart chosen
  dsimp only
  generalize (validate && inspection.discardsDraft) = discards
  have cleared : Prepared d p ((if discards then (made.put draft (.file encoded)).remove draft
      else made.put draft (.file encoded)).remove draft) := by
    apply prepared_of_entries
    · rw [run]
      cases discards <;> rfl
    · rw [run]
      exact entry_cleared below free discards
  split
  · exact .refused _ rfl cleared
  split
  · rename_i moved run
    cases discards with
    | false =>
      obtain ⟨l, filled, named⟩ := filled_of_move below free other run
      exact .written made l encoded rfl ensured given filled named
    | true =>
      obtain ⟨_, _, _, _, present, _⟩ := moveFile_ok run
      rw [if_pos rfl, entry_remove below, if_pos rfl] at present
      cases present
  · exact .refused _ rfl cleared

/-- Only a content that has an encoding is written. -/
theorem writeAtomically_encodes {d : Disk} {inspection : Inspection} {p : Path} {content : Text}
    {validate : Bool}
    (done : (d.writeAtomically inspection p content validate).result = .ok ()) :
    content.string? ≠ none := by
  unfold writeAtomically at done
  split at done
  · cases done
  split at done
  · cases done
  · cases done
  · rename_i given
    rw [given]
    exact Option.some_ne_none _

theorem writeInPlace_encodes {d : Disk} {p : Path} {content : Text} {validate : Bool}
    (done : (d.writeInPlace p content validate).result = .ok ()) : content.string? ≠ none := by
  unfold writeInPlace at done
  split at done
  · cases done
  split at done
  · cases done
  · cases done
  · rename_i given
    rw [given]
    exact Option.some_ne_none _

theorem unlessFound_done {d : Disk} {p : Path} {w : Writing}
    (done : (d.unlessFound p w).result = .ok ()) : w.result = .ok () := by
  unfold unlessFound at done
  split at done
  · cases done
  · cases done
  · exact done

theorem writeHeader_encodes {settings : OutputSettings} {d : Disk} {p : Path} {content : Text}
    (done : (writeHeader settings d p content).result = .ok ()) : content.string? ≠ none := by
  have encodes (run : (if settings.atomicWrite.truthy then
        d.writeAtomically .standard p content settings.validateBeforeWrite.truthy
      else d.writeInPlace p content settings.validateBeforeWrite.truthy).result = .ok ()) :
      content.string? ≠ none := by
    split at run
    · exact writeAtomically_encodes run
    · exact writeInPlace_encodes run
  unfold writeHeader at done
  dsimp only at done
  split at done
  · exact encodes (unlessFound_done done)
  · exact encodes done

theorem writeHeader_ends {settings : OutputSettings} {d : Disk} {p : Path} {content : Text}
    (encodes : ∀ l, d.writable p = .ok l → content.string? ≠ none) :
    Ends d p content.string? (writeHeader settings d p content) := by
  unfold writeHeader
  dsimp only
  have ends : Ends d p content.string?
      (if settings.atomicWrite.truthy then
        d.writeAtomically .standard p content settings.validateBeforeWrite.truthy
      else d.writeInPlace p content settings.validateBeforeWrite.truthy) := by
    split
    · exact writeAtomically_ends
    · exact writeInPlace_ends encodes
  split
  · exact unlessFound_ends ends
  · exact ends

section Success

variable {d : Disk} {p : Path} {content : Text} {encoded : String} {validate : Bool}

/-- What a write makes of the inspection of its content. -/
def verdict (content : Text) (validate : Bool) : Option Rejection :=
  if validate then Code.rejection? content else none

theorem atomic_moved {draft : Location} {moved : Disk} (around : d.isDirectory p.parent = true)
    (chosen : d.draftOf p = .ok draft) (given : content.string? = some encoded)
    (passes : verdict content validate = none)
    (run : (d.put draft (.file encoded)).moveFile draft p = .ok moved) :
    d.writeAtomically .standard p content validate = ⟨moved, validate, .ok ()⟩ := by
  unfold verdict at passes
  rw [writeAtomically, ensureDirectory_present around]
  simp only [chosen, given, Inspection.standard, Bool.and_false, Bool.false_eq_true, ↓reduceIte,
    passes, run]

theorem plain_written {l : Location} (passes : verdict content validate = none)
    (allowed : d.writable p = .ok l) (given : content.string? = some encoded) :
    d.writeInPlace p content validate = ⟨d.put l (.file encoded), validate, .ok ()⟩ := by
  unfold verdict at passes
  rw [writeInPlace, passes, allowed, given]

end Success

end Disk
end StructBridge.Files
