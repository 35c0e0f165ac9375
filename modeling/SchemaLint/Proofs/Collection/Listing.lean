import SchemaLint.Proofs.Collection
import SchemaLint.Proofs.Decision
import SchemaLint.Proofs.Glob

/-! Collections as lists. Each path gives what it leads to, in order, and of all this the first path to
each file is kept. So more paths leave what the paths before them gave as it is.
-/
namespace SchemaLint

namespace FileTree

instance (tree : FileTree) (here : Location) (written : Text) :
    Decidable (tree.Lacks here written) :=
  decidable_of_iff ((tree.follow here (Path.parse written)).toOption.all fun location =>
      (tree.contents? location).isNone && !tree.isDirectory location) (by
    unfold Lacks
    cases tree.follow here (Path.parse written) <;> simp [Except.toOption])

end FileTree

namespace Collection
variable {tree : FileTree} {here : Location} {suffix written : Text}

/-- Whether a written path is short enough to be looked at, and so is all that has to be looked at
below it: the directories, and what its name asks to be collected. -/
structure Traversable (tree : FileTree) (here : Location) (suffix written : Text) : Prop where
  path : tree.follow here (Path.parse written) ≠ .error .tooLong
  below : ∀ {start names node}, tree.follow here (Path.parse written) = .ok start →
    tree.get? (start ++ names) = some node →
    node = .directory ∨ (∃ name ∈ names.getLast?, suffix <:+ name) →
    tree.follow here ((Path.parse written).below names) ≠ .error .tooLong

theorem Traversable.leads {start : Location} {names : List Text} {name : Text} {node : Node}
    (traversable : Traversable tree here suffix written)
    (found : tree.follow here (Path.parse written) = .ok start)
    (stands : tree.get? (start ++ names ++ [name]) = some node) (ends : suffix <:+ name)
    (noLink : ∀ target, node ≠ .link target) :
    tree.follow here ((Path.parse written).below (names ++ [name])) =
      .ok (start ++ names ++ [name]) := by
  rw [List.append_assoc] at stands ⊢
  exact (FileTree.follow_below found stands noLink).resolve_right
    (traversable.below found stands (.inr ⟨name,by simp,ends⟩))

theorem Traversable.above {start : Location} {names : List Text} {name : Text} {node : Node}
    (traversable : Traversable tree here suffix written)
    (found : tree.follow here (Path.parse written) = .ok start)
    (stands : tree.get? (start ++ names ++ [name]) = some node) :
    tree.follow here ((Path.parse written).below names) ≠ .error .tooLong :=
  traversable.below found (FileTree.stands_in stands).2 (.inl rfl)

section Suffix
variable (plain : ∀ c ∈ suffix, c ≠ '*' ∧ c ≠ '?' ∧ c ≠ '[' ∧ c ≠ '/')
include plain

end Suffix

def aliased : FileTree :=
  (FileTree.empty.insert [] "a.lp.sql".toList (.file (Utf8.encode "begin".toList))).insert []
    "l.lp.sql".toList (.link "a.lp.sql".toList)

theorem aliased_resolve (links : Nat) :
    aliased.resolve links [] ["a.lp.sql".toList] = .ok ["a.lp.sql".toList] := by
  have stands : aliased.get? ([] ++ ["a.lp.sql".toList]) =
      some (.file (Utf8.encode "begin".toList)) := by decide +kernel
  rw [FileTree.resolve_entry links [] stands fun _ => Node.noConfusion,if_neg (by decide +kernel),
    FileTree.resolve]
  rfl

theorem aliased_follow {name : Text} (entry : name ∈ ["l.lp.sql".toList,"a.lp.sql".toList]) :
    aliased.follow [] ⟨[],[name]⟩ = .ok ["a.lp.sql".toList] := by
  have stands : aliased.get? ([] ++ ["l.lp.sql".toList]) = some (.link "a.lp.sql".toList) := by
    decide +kernel
  have target : FileTree.targetNames "a.lp.sql".toList ++ [] = ["a.lp.sql".toList] := by
    decide +kernel
  rcases List.mem_pair.mp entry with rfl | rfl
  · rw [FileTree.follow_name _ _ (by decide +kernel) (by decide +kernel) (by decide +kernel),
      FileTree.resolve,if_neg (by decide +kernel),if_neg (by decide +kernel),
      if_neg (by decide +kernel),if_neg (by decide +kernel),stands]
    dsimp only [FileTree.linkLimit]
    rw [target,if_neg (by decide +kernel),aliased_resolve]
  · rw [FileTree.follow_name _ _ (by decide +kernel) (by decide +kernel) (by decide +kernel),
      aliased_resolve]

end Collection
end SchemaLint
