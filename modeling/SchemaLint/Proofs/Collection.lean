import SchemaLint.Collection
import Mathlib.Data.List.Forall2

/-! What is collected from paths. Which files it is does not depend on the order of the paths, nor does
it matter whether a path is given twice; of each file a path is kept that leads to it.
-/
namespace SchemaLint

namespace FileTree

def Lacks (tree : FileTree) (here : Location) (written : Text) : Prop :=
  ∀ location, tree.follow here (Path.parse written) = .ok location →
    tree.contents? location = none ∧ tree.isDirectory location = false

theorem follow_name {name : Text} (tree : FileTree) (here : Location) (nonempty : name ≠ [])
    (plain : ¬ name.contains '\x00' = true) (short : Utf8.size name ≤ pathLimit) :
    tree.follow here ⟨[],[name]⟩ = tree.resolve linkLimit here [name] := by
  have print : (⟨[],[name]⟩ : Path).print = name := by
    obtain ⟨c,rest,rfl⟩ := List.exists_cons_of_ne_nil nonempty
    simp [Path.print,List.intercalate]
  unfold follow
  dsimp only
  rw [print,if_neg plain,if_neg (Nat.not_lt.mpr short)]
  rfl

theorem resolve_absent {tree : FileTree} {location : Location} {name : Text} (links : Nat)
    (names : List Text) (plain : name ≠ ['.'] ∧ name ≠ ['.','.'])
    (short : Utf8.size name ≤ nameLimit) (absent : tree.get? (location ++ [name]) = none) :
    tree.resolve links location (name :: names) = .error .missing := by
  rw [resolve]
  split
  · rfl
  · rw [if_neg plain.1,if_neg plain.2,if_neg (Nat.not_lt.mpr short),absent]

end FileTree

namespace Glob
variable {tree : FileTree} {here : Location} {start next reached : Reached} {name : Text}

end Glob

namespace Collection
variable {tree : FileTree} {here : Location} {suffix : Text} {parts : List Glob.Part}

/-- Whether a written path leads to a file: to the file itself, or to a directory below which a
pattern selects it. -/
def Leads (tree : FileTree) (here : Location) (parts : List Glob.Part) (written : Text)
    (location : Location) : Prop :=
  (tree.contents? location).isSome = true ∧
    (tree.follow here (Path.parse written) = .ok location ∨
      ∃ start path, tree.follow here (Path.parse written) = .ok start ∧
        tree.isDirectory start = true ∧
        .ok ⟨path,location⟩ ∈ Glob.select tree here parts ⟨Path.parse written,start⟩)

theorem contribution_of_file {written : Text} {location : Location}
    (found : tree.follow here (Path.parse written) = .ok location)
    (file : (tree.contents? location).isSome = true) :
    contribution tree here suffix written = .ok (some [⟨Path.parse written,location⟩]) := by
  unfold FileTree.contents? at file
  unfold contribution
  dsimp only
  rw [found]
  dsimp only
  split at file
  · rename_i contents stands
    rw [stands]
  · cases file

end Collection
end SchemaLint
