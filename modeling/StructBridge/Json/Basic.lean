import StructBridge.Lookup
import StructBridge.Number.Binary64
import StructBridge.Text.Basic

/-!
Values of a JSON document. An object keeps its keys in the order of their first appearance, each
once; integers are exact and all other numbers are binary64. `same` is equality by value: numbers
and truth values compare as numbers, objects without regard to order.
-/
namespace StructBridge

inductive Json where
  | null
  | bool (b : Bool)
  | int (n : Int)
  | float (x : Binary64)
  | str (t : Text)
  | arr (items : List Json)
  | obj (fields : List (Text × Json))
  deriving Inhabited

namespace Json

def field? (v : Json) (key : Text) : Option Json :=
  match v with
  | obj fields => fields.lookup key
  | _ => none

/-- The field unless it is missing or null. -/
def given? (v : Json) (key : Text) : Option Json :=
  match v.field? key with
  | some null => none
  | found => found

/-- The field, or the value taken in its place when it is missing. A null field is not missing. -/
def fieldD (v : Json) (key : Text) (missing : Json) : Json := (v.field? key).getD missing

def isObject : Json → Bool
  | obj _ => true
  | _ => false

def text? : Json → Option Text
  | str t => some t
  | _ => none

/-- Null, false, zero and everything empty count as absent. -/
def truthy : Json → Bool
  | null => false
  | bool b => b
  | int n => n != 0
  | float x => !x.isZero
  | str t => !t.isEmpty
  | arr items => !items.isEmpty
  | obj fields => !fields.isEmpty

/-- Lists and objects cannot serve as keys. -/
def isKey : Json → Bool
  | arr _ => false
  | obj _ => false
  | _ => true

def asInt? : Json → Option Int
  | bool b => some (if b then 1 else 0)
  | int n => some n
  | _ => none

def sameNumber (a b : Json) : Bool :=
  match a.asInt?, b.asInt?, a, b with
  | some m, some n, _, _ => m == n
  | some m, none, _, float y => y.sameInt m
  | none, some n, float x, _ => x.sameInt n
  | none, none, float x, float y => x.same y
  | _, _, _, _ => false

mutual

def same : Json → Json → Bool
  | null, null => true
  | str s, str t => s == t
  | arr xs, arr ys => sameItems xs ys
  | obj xs, obj ys => xs.length == ys.length && sameFields xs ys
  | a, b => sameNumber a b

def sameItems : List Json → List Json → Bool
  | [], [] => true
  | x :: xs, y :: ys => same x y && sameItems xs ys
  | _, _ => false

def sameFields : List (Text × Json) → List (Text × Json) → Bool
  | [], _ => true
  | (key, x) :: xs, ys =>
    (match ys.lookup key with
     | some y => same x y
     | none => false) && sameFields xs ys

end

def ofFields (fields : List (Text × Json)) : Json :=
  obj (fields.foldl (fun acc (key, value) => setKey key value acc) [])

theorem same_str (s t : Text) : same (str s) (str t) = (s == t) := rfl

theorem isKey_str (t : Text) : (str t).isKey = true := rfl

example : same (int 1) (float (.ofDecimal false 10 (-1))) = true ∧
    same (arr [int 1]) (arr [bool true]) = true ∧
    same (obj [("a", int 1), ("b", null)]) (obj [("b", null), ("a", bool true)]) = true ∧
    same (str "1") (int 1) = false := by
  decide +kernel

end Json
end StructBridge
