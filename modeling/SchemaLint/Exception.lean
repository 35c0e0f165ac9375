import SchemaLint.Text.Blank

/-! Exceptions, which code outside of the program may raise. Each has a class with a name and says
something.
-/
namespace SchemaLint

/-- Whether a name of a class may have a character. Beyond ASCII all characters but blanks are let
through, which is more than identifiers have. -/
def ClassName.isLetter (c : Char) : Bool :=
  if c.toNat < 0x80 then c.isAlphanum || c = '_' else !Text.isBlank c

structure ClassName where
  name : Text
  nonempty : name ≠ []
  letters : ∀ c ∈ name, ClassName.isLetter c = true
  short : name.length ≤ 302
  deriving DecidableEq, Repr

structure Exception where
  className : ClassName
  message : Text
  deriving DecidableEq, Repr

namespace ClassName

def ofName? (name : Text) : Option ClassName :=
  if nonempty : name ≠ [] then
    if letters : name.all isLetter = true then
      if short : name.length ≤ 302 then some ⟨name,nonempty,List.all_eq_true.mp letters,short⟩
      else none
    else none
  else none

def valueError : ClassName where
  name := "ValueError".toList
  nonempty := by decide
  letters := List.all_eq_true.mp rfl
  short := by decide

end ClassName
end SchemaLint
