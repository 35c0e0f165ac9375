import SchemaLint.Text.Blank

/-! Words are runs of ASCII letters, digits and underscores. Letters are compared without regard to
ASCII case; no other case folding takes part.
-/
namespace SchemaLint.Text

def isWord (c : Char) : Bool :=
  c.isAlphanum || c = '_'

def startsInWord : Text → Bool
  | [] => false
  | c :: _ => isWord c

theorem isWord_eq_false_of_isGap {c : Char} (gap : isGap c = true) : isWord c = false := by
  simp only [isGap,Bool.or_eq_true,decide_eq_true_eq] at gap
  rcases gap with ((((rfl | rfl) | rfl) | rfl) | rfl) | rfl <;> decide

end SchemaLint.Text
