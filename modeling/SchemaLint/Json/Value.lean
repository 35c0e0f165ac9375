import SchemaLint.Text.Blank

/-! JSON values. An object keeps its members in written order; where a name is repeated, the last
member of that name counts.
-/
namespace SchemaLint

inductive Json where
  | null
  | bool (value : Bool)
  | integer (value : Int)
  /-- A number with a fraction or an exponent, or one that is not finite, as it was written. -/
  | real (literal : Text)
  | text (value : Text)
  | array (items : List Json)
  | object (members : List (Text × Json))

namespace Json

def member? (members : List (Text × Json)) (name : Text) : Option Json :=
  members.foldl (fun found member => if member.1 = name then some member.2 else found) none

end Json
end SchemaLint
