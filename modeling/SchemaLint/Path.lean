import SchemaLint.Text.Blank

/-! Paths as they are written and told. A path is a root, if it has one, and names in order. Written
in other ways, with needless dots and slashes, a path is still the same; `..` is a name like others,
for what it leads to depends on the files.
-/
namespace SchemaLint

structure Path where
  /-- Empty for a path that starts where the reader is. -/
  root : Text
  names : List Text
  deriving DecidableEq, Repr

namespace Path

def isSlash (c : Char) : Bool := c = '/'

/-- Exactly two slashes are a root of their own. -/
def rootOf (text : Text) : Text :=
  match (text.takeWhile isSlash).length with
  | 0 => []
  | 2 => ['/','/']
  | _ => ['/']

def namesOf (text : Text) : List Text :=
  (Text.fieldsBy isSlash text).filter (· ≠ ['.'])

def parse (text : Text) : Path where
  root := rootOf text
  names := namesOf text

def print (path : Path) : Text :=
  match path.root ++ ['/'].intercalate path.names with
  | [] => ['.']
  | text => text

def below (path : Path) (names : List Text) : Path :=
  { path with names := path.names ++ names }

/-- Names are in the order of their first characters that differ, by code point; the start of a name
comes before the name. -/
def nameAtOrBefore : Text → Text → Bool
  | [], _ => true
  | _ :: _, [] => false
  | c :: rest, d :: others =>
    if c = d then nameAtOrBefore rest others else c.toNat < d.toNat

def namesAtOrBefore : List Text → List Text → Bool
  | [], _ => true
  | _ :: _, [] => false
  | a :: rest, b :: others => if a = b then namesAtOrBefore rest others else nameAtOrBefore a b

def atOrBefore (a b : Path) : Bool :=
  namesAtOrBefore a.names b.names

end Path
end SchemaLint
