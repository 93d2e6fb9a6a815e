/-!
Lists of keys with values, in which the first value of a key counts.
-/
namespace StructBridge

variable {κ β : Type} [DecidableEq κ]

/-- A key set again keeps its place and takes the later value; a new one comes last. -/
def setKey (key : κ) (value : β) : List (κ × β) → List (κ × β)
  | [] => [(key, value)]
  | (k, v) :: rest => if k = key then (k, value) :: rest else (k, v) :: setKey key value rest

-- Keys are looked up by whatever equality of theirs is in use.
variable [BEq κ] [LawfulBEq κ]

theorem lookup_entry (key k : κ) (value : β) (rest : List (κ × β)) :
    List.lookup k ((key, value) :: rest) = if k = key then some value else rest.lookup k := by
  by_cases same : k = key
  · rw [if_pos same, same, List.lookup_cons_self]
  · rw [if_neg same, List.lookup_cons, beq_false_of_ne same]

theorem lookup_setKey (key k : κ) (value : β) (entries : List (κ × β)) :
    (setKey key value entries).lookup k = if k = key then some value else entries.lookup k := by
  induction entries with
  | nil => exact lookup_entry key k value []
  | cons entry rest ih =>
    obtain ⟨first, v⟩ := entry
    by_cases here : first = key
    · rw [setKey, if_pos here, lookup_entry, lookup_entry, here]
      by_cases same : k = key
      · rw [if_pos same, if_pos same]
      · rw [if_neg same, if_neg same, if_neg same]
    · rw [setKey, if_neg here, lookup_entry, lookup_entry, ih]
      by_cases same : k = key
      · have other : k ≠ first := fun meets => here (meets.symm.trans same)
        rw [if_neg other, if_pos same, if_pos same]
      · rw [if_neg same, if_neg same]

theorem lookup_without (key k : κ) (entries : List (κ × β)) :
    (entries.filter fun entry => entry.1 ≠ key).lookup k =
      if k = key then none else entries.lookup k := by
  induction entries with
  | nil => simp
  | cons entry rest ih =>
    obtain ⟨first, v⟩ := entry
    by_cases gone : first = key
    · rw [List.filter_cons_of_neg (by simpa using gone), ih, lookup_entry, gone]
      split <;> rfl
    · rw [List.filter_cons_of_pos (by simpa using gone), lookup_entry, lookup_entry, ih]
      by_cases same : k = first
      · simp [same, gone]
      · simp [same]

/-- A new key that is taken away again leaves the list as it was. -/
theorem setKey_without {key : κ} {value : β} {entries : List (κ × β)}
    (free : entries.lookup key = none) :
    (setKey key value entries).filter (fun entry => entry.1 ≠ key) = entries := by
  induction entries with
  | nil => simp [setKey]
  | cons entry rest ih =>
    obtain ⟨k, held⟩ := entry
    rw [lookup_entry] at free
    split at free
    · cases free
    · rename_i apart
      have other : k ≠ key := fun same => apart same.symm
      rw [setKey, if_neg other, List.filter_cons_of_pos (by simpa using other), ih free]

theorem lookup_of_mem {key : κ} {value : β} {entries : List (κ × β)}
    (distinct : (entries.map Prod.fst).Nodup) (member : (key, value) ∈ entries) :
    entries.lookup key = some value := by
  induction entries with
  | nil => cases member
  | cons entry rest ih =>
    obtain ⟨first, v⟩ := entry
    obtain ⟨absent, distinct⟩ := List.nodup_cons.mp distinct
    rw [lookup_entry]
    rcases List.mem_cons.mp member with same | later
    · obtain ⟨rfl, rfl⟩ := Prod.mk.inj same
      exact if_pos rfl
    · have apart : key ≠ first := by
        rintro rfl
        exact absent (List.mem_map.mpr ⟨_, later, rfl⟩)
      rw [if_neg apart, ih distinct later]

end StructBridge
