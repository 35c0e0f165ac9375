import SchemaLint.Comment
import Mathlib.Data.List.Forall2

/-! Reading a text region by region. A delimiter of two characters is taken at once, so a text may be
cut wherever no delimiter that counts lies across the cut.
-/
namespace SchemaLint.Comment

def Opens (text : Text) : Prop :=
  ['-','-'] <+: text ∨ ['/','*'] <+: text

def Closes (text : Text) : Prop :=
  ['*','/'] <+: text

/-- The region that a text ends in, read from inside a region. -/
def after : Region → Text → Region
  | region, [] => region
  | .code, '-' :: '-' :: rest => after .line rest
  | .code, '/' :: '*' :: rest => after .block rest
  | .code, _ :: rest => after .code rest
  | .line, '\n' :: rest => after .code rest
  | .line, _ :: rest => after .line rest
  | .block, '*' :: '/' :: rest => after .code rest
  | .block, _ :: rest => after .block rest

theorem opens_cons {c : Char} {rest : Text} : Opens (c :: rest) ↔
    c = '-' ∧ rest.head? = some '-' ∨ c = '/' ∧ rest.head? = some '*' := by
  cases rest <;> simp [Opens,List.cons_prefix_cons,eq_comm]

theorem closes_cons {c : Char} {rest : Text} :
    Closes (c :: rest) ↔ c = '*' ∧ rest.head? = some '/' := by
  cases rest <;> simp [Closes,List.cons_prefix_cons,eq_comm]

theorem not_opens_nil : ¬ Opens [] := by
  simp [Opens]

theorem blankFrom_code_cons {c : Char} {rest : Text} (plain : ¬ Opens (c :: rest)) :
    blankFrom .code (c :: rest) = c :: blankFrom .code rest := by
  rw [opens_cons] at plain
  apply blankFrom.eq_4
  · intro behind first equal
    simp [first,equal] at plain
  · intro behind first equal
    simp [first,equal] at plain

theorem blankFrom_line_cons {c : Char} {rest : Text} (inLine : c ≠ '\n') :
    blankFrom .line (c :: rest) = ' ' :: blankFrom .line rest := by
  exact blankFrom.eq_6 _ _ inLine

theorem blankFrom_block_cons {c : Char} {rest : Text} (inBlock : ¬ Closes (c :: rest)) :
    blankFrom .block (c :: rest) = ' ' :: blankFrom .block rest := by
  rw [closes_cons] at inBlock
  apply blankFrom.eq_8
  intro behind first equal
  simp [first,equal] at inBlock

theorem after_code_cons {c : Char} {rest : Text} (plain : ¬ Opens (c :: rest)) :
    after .code (c :: rest) = after .code rest := by
  rw [opens_cons] at plain
  apply after.eq_4
  · intro behind first equal
    simp [first,equal] at plain
  · intro behind first equal
    simp [first,equal] at plain

theorem after_line_cons {c : Char} {rest : Text} (inLine : c ≠ '\n') :
    after .line (c :: rest) = after .line rest := by
  exact after.eq_6 _ _ inLine

theorem after_block_cons {c : Char} {rest : Text} (inBlock : ¬ Closes (c :: rest)) :
    after .block (c :: rest) = after .block rest := by
  rw [closes_cons] at inBlock
  apply after.eq_8
  intro behind first equal
  simp [first,equal] at inBlock

theorem length_blankFrom (region : Region) (text : Text) :
    (blankFrom region text).length = text.length := by
  fun_induction blankFrom region text <;> simp_all

theorem length_neutralize (text : Text) : (neutralize text).length = text.length := by
  rw [neutralize_eq,length_blankFrom]

theorem blankFrom_forall₂ (region : Region) (text : Text) :
    List.Forall₂ (fun c blanked => blanked = c ∨ blanked = ' ') text (blankFrom region text) := by
  fun_induction blankFrom region text <;> simp_all

/-- The first character behind a cut completes no delimiter that counts in the region before it. -/
def Clear : Region → Text → Prop
  | .code, rest => rest.head? ≠ some '-' ∧ rest.head? ≠ some '*'
  | .line, _ => True
  | .block, rest => rest.head? ≠ some '/'

theorem not_opens_append {c : Char} {text rest : Text} (plain : ¬ Opens (c :: text))
    (clear : text = [] → Clear .code rest) : ¬ Opens (c :: (text ++ rest)) := by
  rw [opens_cons] at plain ⊢
  cases text with
  | nil => simp_all [Clear]
  | cons d text => simpa using plain

theorem not_closes_append {c : Char} {text rest : Text} (inBlock : ¬ Closes (c :: text))
    (clear : text = [] → Clear .block rest) : ¬ Closes (c :: (text ++ rest)) := by
  rw [closes_cons] at inBlock ⊢
  cases text with
  | nil => simp_all [Clear]
  | cons d text => simpa using inBlock

/-- A text may be read up to a cut and then on from the region that the first part ends in. -/
theorem walk_append (region : Region) (text rest : Text) (clear : Clear (after region text) rest) :
    blankFrom region (text ++ rest) =
        blankFrom region text ++ blankFrom (after region text) rest ∧
      after region (text ++ rest) = after (after region text) rest := by
  fun_induction after region text with
  | case1 region => cases region <;> simp [blankFrom]
  | case2 text ih => simp [blankFrom,after,ih clear]
  | case3 text ih => simp [blankFrom,after,ih clear]
  | case4 c text notLine notBlock ih =>
    have plain : ¬ Opens (c :: text) := by
      rw [opens_cons]
      cases text <;> simp_all
    have plainBefore : ¬ Opens (c :: (text ++ rest)) :=
      not_opens_append plain fun empty => by simpa [empty,after] using clear
    rw [List.cons_append,blankFrom_code_cons plainBefore,blankFrom_code_cons plain,
      after_code_cons plainBefore,(ih clear).1,(ih clear).2]
    exact ⟨rfl,rfl⟩
  | case5 text ih => simp [blankFrom,after,ih clear]
  | case6 c text inLine ih =>
    rw [List.cons_append,blankFrom_line_cons inLine,blankFrom_line_cons inLine,
      after_line_cons inLine,(ih clear).1,(ih clear).2]
    exact ⟨rfl,rfl⟩
  | case7 text ih => simp [blankFrom,after,ih clear]
  | case8 c text notClose ih =>
    have inBlock : ¬ Closes (c :: text) := by
      rw [closes_cons]
      cases text <;> simp_all
    have inBlockBefore : ¬ Closes (c :: (text ++ rest)) :=
      not_closes_append inBlock fun empty => by simpa [empty,after] using clear
    rw [List.cons_append,blankFrom_block_cons inBlockBefore,blankFrom_block_cons inBlock,
      after_block_cons inBlockBefore,(ih clear).1,(ih clear).2]
    exact ⟨rfl,rfl⟩

theorem blankFrom_append (region : Region) (text rest : Text)
    (clear : Clear (after region text) rest) :
    blankFrom region (text ++ rest) =
      blankFrom region text ++ blankFrom (after region text) rest :=
  (walk_append region text rest clear).1

theorem after_append (region : Region) (text rest : Text)
    (clear : Clear (after region text) rest) :
    after region (text ++ rest) = after (after region text) rest :=
  (walk_append region text rest clear).2

end SchemaLint.Comment
