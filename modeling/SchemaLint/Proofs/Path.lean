import SchemaLint.Path

/-! Paths in order. The order of names is the one of their characters, and the order of paths the one of
their names, both read from the left.
-/
namespace SchemaLint.Path

theorem mem_intercalate {names : List Text} {c : Char} (apart : c ≠ '/') :
    c ∈ ['/'].intercalate names ↔ ∃ name ∈ names, c ∈ name := by
  unfold List.intercalate
  induction names with
  | nil => simp
  | cons name names ih =>
    cases names with
    | nil => simp
    | cons next names =>
      rw [List.intersperse_cons_cons,List.flatten_cons,List.flatten_cons,List.mem_append,
        List.mem_append,ih]
      simp [apart]

theorem mem_print {path : Path} {c : Char} (apart : c ≠ '/') (named : c ≠ '.') :
    c ∈ path.print ↔ c ∈ path.root ∨ ∃ name ∈ path.names, c ∈ name := by
  rw [← mem_intercalate apart,← List.mem_append]
  unfold print
  split
  · rename_i empty
    simp [empty,named]
  · rfl

end SchemaLint.Path
