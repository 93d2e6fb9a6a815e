import StructBridge.Json.Basic

/-!
Values with another value under one key. The other keys keep what they have.
-/
namespace StructBridge.Json

/-- An object with another value under a key. Other values have no fields to set. -/
def withField (v : Json) (key : Text) (w : Json) : Json :=
  match v with
  | obj fields => obj (setKey key w fields)
  | v => v

variable {v : Json} {key k : Text} (w : Json)

theorem isObject_withField (v : Json) (key : Text) : (v.withField key w).isObject = v.isObject := by
  cases v <;> rfl

theorem field_withField (object : v.isObject = true) : (v.withField key w).field? key = some w := by
  cases v with
  | obj fields => exact (lookup_setKey key key w fields).trans (if_pos rfl)
  | _ => cases object

theorem field_withField_ne (apart : k ≠ key) : (v.withField key w).field? k = v.field? k := by
  cases v with
  | obj fields => exact (lookup_setKey key k w fields).trans (if_neg apart)
  | _ => rfl

theorem fieldD_withField (object : v.isObject = true) (missing : Json) :
    (v.withField key w).fieldD key missing = w := by
  rw [fieldD, field_withField w object, Option.getD_some]

theorem fieldD_withField_ne (apart : k ≠ key) (missing : Json) :
    (v.withField key w).fieldD k missing = v.fieldD k missing := by
  rw [fieldD, field_withField_ne w apart, fieldD]

theorem isObject_of_field {w : Json} (found : v.field? key = some w) : v.isObject = true := by
  cases v with
  | obj fields => rfl
  | _ => cases found

end StructBridge.Json
