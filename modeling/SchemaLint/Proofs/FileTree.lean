import SchemaLint.FileTree
import SchemaLint.Proofs.Path
import Mathlib.Data.List.Induction
import Mathlib.Data.List.Nodup

/-! What stands below a directory. It is reached through directories alone, so a path that leads to the
directory goes on to it by its names, as far as paths may be that long.
-/
namespace SchemaLint.FileTree
variable {tree : FileTree} {location : Location}

theorem stands_in {name : Text} {node : Node} (stands : tree.get? (location ++ [name]) = some node) :
    isEntryName name = true ∧ tree.get? location = some .directory := by
  obtain ⟨entry,parent⟩ := tree.parent_mem (get?_eq_some_iff.mp stands)
  exact ⟨entry,get?_eq_some_iff.mpr parent⟩

theorem directory_above {names : List Text} {node : Node} (below : names ≠ [])
    (stands : tree.get? (location ++ names) = some node) : tree.get? location = some .directory := by
  induction names using List.reverseRecOn generalizing node with
  | nil => exact absurd rfl below
  | append_singleton names name ih =>
    rw [← List.append_assoc] at stands
    have parent := (stands_in stands).2
    by_cases direct : names = []
    · rwa [direct,List.append_nil] at parent
    · exact ih direct parent

theorem stands_first {name : Text} {names : List Text} {node : Node}
    (stands : tree.get? (location ++ name :: names) = some node) :
    ∃ first, tree.get? (location ++ [name]) = some first ∧
      (first = .directory ∨ names = [] ∧ first = node) := by
  rw [List.append_cons] at stands
  by_cases direct : names = []
  · rw [direct,List.append_nil] at stands
    exact ⟨node,stands,.inr ⟨direct,rfl⟩⟩
  · exact ⟨.directory,directory_above direct stands,.inl rfl⟩

theorem names_below {names : List Text} {node : Node}
    (stands : tree.get? (location ++ names) = some node) :
    ∀ name ∈ names, isEntryName name = true := by
  induction names generalizing location with
  | nil => exact fun _ member => (List.not_mem_nil member).elim
  | cons first names ih =>
    obtain ⟨standing,found,-⟩ := stands_first stands
    rw [List.append_cons] at stands
    intro name member
    rcases List.mem_cons.mp member with rfl | later
    · exact (stands_in found).1
    · exact ih stands name later

theorem isEntryName_iff {name : Text} : isEntryName name = true ↔
    name ≠ [] ∧ name ≠ ['.'] ∧ name ≠ ['.','.'] ∧ '/' ∉ name ∧ '\x00' ∉ name := by
  simp [isEntryName,and_assoc]

theorem resolve_entry {name : Text} {node : Node} (links : Nat) (names : List Text)
    (stands : tree.get? (location ++ [name]) = some node) (plain : ∀ target, node ≠ .link target) :
    tree.resolve links location (name :: names) =
      if nameLimit < Utf8.size name then .error .tooLong
      else tree.resolve links (location ++ [name]) names := by
  obtain ⟨entry,directory⟩ := stands_in stands
  obtain ⟨-,notDot,notDots,-,-⟩ := isEntryName_iff.mp entry
  rw [resolve,if_neg (by simp [isDirectory,directory]),if_neg notDot,if_neg notDots,stands]
  cases node with
  | link target => exact absurd rfl (plain target)
  | file contents => rfl
  | directory => rfl

/-- Where names lead, further names go on from there, with the links that are left. -/
theorem resolve_append {links : Nat} {names : List Text} {start : Location}
    (found : tree.resolve links location names = .ok start) :
    ∃ left, ∀ more, tree.resolve links location (names ++ more) = tree.resolve left start more := by
  fun_induction resolve tree links location names with
  | case1 links location =>
    cases found
    exact ⟨links,fun _ => rfl⟩
  | case2 | case5 | case6 | case7 => cases found
  | case3 links location names directory ih =>
    obtain ⟨left,onward⟩ := ih found
    refine ⟨left,fun more => ?_⟩
    rw [List.cons_append,resolve,if_neg directory,if_pos rfl,onward]
  | case4 links location names directory other ih =>
    obtain ⟨left,onward⟩ := ih found
    refine ⟨left,fun more => ?_⟩
    rw [List.cons_append,resolve,if_neg directory,if_neg other,if_pos rfl,onward]
  | case8 location name names directory notDot notDots short target stands links start ih =>
    obtain ⟨left,onward⟩ := ih found
    refine ⟨left,fun more => ?_⟩
    rw [List.cons_append,resolve,if_neg directory,if_neg notDot,if_neg notDots,if_neg short,stands]
    dsimp only
    rw [← List.append_assoc]
    exact onward more
  | case9 links location name names directory notDot notDots short node notLink stands ih =>
    obtain ⟨left,onward⟩ := ih found
    refine ⟨left,fun more => ?_⟩
    rw [List.cons_append,resolve_entry links _ stands notLink,if_neg short,onward]

theorem resolve_below {names : List Text} {node : Node} (links : Nat)
    (stands : tree.get? (location ++ names) = some node) (plain : ∀ target, node ≠ .link target) :
    tree.resolve links location names = .ok (location ++ names) ∨
      tree.resolve links location names = .error .tooLong := by
  induction names generalizing location with
  | nil =>
    rw [resolve,List.append_nil]
    exact .inl rfl
  | cons name names ih =>
    obtain ⟨first,found,kind⟩ := stands_first stands
    have plainFirst : ∀ target, first ≠ .link target := by
      rcases kind with rfl | ⟨-,rfl⟩
      · intro target different
        cases different
      · exact plain
    rw [List.append_cons] at stands
    rw [resolve_entry links names found plainFirst,List.append_cons location name names]
    split
    · exact .inr rfl
    · exact ih stands

theorem follow_below {here start : Location} {path : Path} {names : List Text} {node : Node}
    (found : tree.follow here path = .ok start) (stands : tree.get? (start ++ names) = some node)
    (plain : ∀ target, node ≠ .link target) :
    tree.follow here (path.below names) = .ok (start ++ names) ∨
      tree.follow here (path.below names) = .error .tooLong := by
  unfold follow at found ⊢
  dsimp only at found ⊢
  split at found
  · cases found
  · rename_i printable
    split at found
    · cases found
    · have clean : ¬ (path.below names).print.contains '\x00' = true := by
        rw [List.contains_iff_mem,Path.mem_print (by decide) (by decide)] at printable ⊢
        rintro (root | ⟨name,member,bad⟩)
        · exact printable (.inl root)
        · rcases List.mem_append.mp member with before | behind
          · exact printable (.inr ⟨name,before,bad⟩)
          · exact (isEntryName_iff.mp (names_below stands name behind)).2.2.2.2 bad
      obtain ⟨left,onward⟩ := resolve_append found
      rw [if_neg clean]
      split
      · exact .inr rfl
      · unfold Path.below
        dsimp only
        rw [onward]
        exact resolve_below left stands plain

end SchemaLint.FileTree
