import StructBridge.Text.Search

/-!
Paths as their components. Empty components and single dots say nothing and are left out; two dots
stay, since only a directory tree can tell what they lead to. A path may start at a root, and two
leading slashes, not more, are a root of their own.
-/
namespace StructBridge.Files

inductive Root where
  | none
  | single
  | double
  deriving DecidableEq, Repr

structure Path where
  root : Root
  parts : List Text
  deriving DecidableEq, Repr

def Root.text : Root → Text
  | none => ""
  | single => "/"
  | double => "//"

def rootOf : Text → Root
  | .char '/' :: .char '/' :: .char '/' :: _ => .single
  | .char '/' :: .char '/' :: _ => .double
  | .char '/' :: _ => .single
  | _ => .none

def componentsOf (t : Text) : List Text :=
  (Text.splitAt (.char '/') t).filter fun part => part ≠ "" ∧ part ≠ "."

namespace Path

def ofText (t : Text) : Path := ⟨rootOf t, componentsOf t⟩

def text (p : Path) : Text :=
  if p.root = .none ∧ p.parts = [] then "." else p.root.text ++ List.intercalate "/" p.parts

def name (p : Path) : Text := p.parts.getLast?.getD ""

def parent (p : Path) : Path := { p with parts := p.parts.dropLast }

def child (p : Path) (name : Text) : Path := { p with parts := p.parts ++ [name] }

/-- A list and its beginnings, the shortest first. -/
def beginnings : List Text → List (List Text)
  | [] => [[]]
  | part :: rest => [] :: (beginnings rest).map (part :: ·)

/-- The path and all that lead to it, the longest first. -/
def chain (p : Path) : List Path :=
  (beginnings p.parts).reverse.map fun parts => { p with parts }

/-- A name up to its last dot, unless the dot starts or ends it. -/
def stemOf (name : Text) : Text :=
  let after := name.reverse.takeWhile (· ≠ .char '.')
  let before := name.take (name.length - after.length - 1)
  if after.isEmpty ∨ before.isEmpty ∨ after.length = name.length then name else before

def stem (p : Path) : Text := stemOf p.name

end Path

theorem slash_not_mem_componentsOf {t part : Text} (member : part ∈ componentsOf t) :
    .char '/' ∉ part :=
  Text.not_mem_of_mem_splitAt (List.mem_filter.mp member).1

example : (Path.ofText "c//d.h").text = "c/d.h" ∧ (Path.ofText "./a.h").text = "a.h" ∧
    (Path.ofText "a/..").name = ".." ∧ (Path.ofText "a/.").name = "a" ∧
    (Path.ofText "//").name = "" ∧ (Path.ofText "a.b.json").stem = "a.b" ∧
    (Path.ofText ".json").stem = ".json" ∧ (Path.ofText "x.").stem = "x." := by
  decide +kernel

end StructBridge.Files
