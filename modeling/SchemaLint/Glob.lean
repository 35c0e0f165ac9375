import SchemaLint.FileTree
import SchemaLint.Glob.Wildcard

/-! Patterns of paths, and what they select below a directory. The parts of a pattern lie between
slashes; each takes what was reached so far on to what it leads to.
-/
namespace SchemaLint

structure Reached where
  path : Path
  location : Location
  deriving DecidableEq, Repr

namespace Glob

inductive Part where
  /-- All directories at or below, links not followed. -/
  | below
  | entries (wildcard : Wildcard)
  | name (name : Text)
  /-- Nothing but directories, for a pattern that ends with a slash. -/
  | directories
  deriving DecidableEq, Repr

/-- Two stars are a part of their own, or the pattern is no pattern. -/
inductive Error where
  | starsInName
  deriving DecidableEq, Repr

def Error.message : Error → Text
  | starsInName => "Invalid pattern: '**' can only be an entire path component".toList

def hasStars : Text → Bool
  | '*' :: '*' :: _ => true
  | _ :: rest => hasStars rest
  | [] => false

def Part.parse (text : Text) : Except Error Part :=
  if text = ['*','*'] then .ok .below
  else if hasStars text then .error .starsInName
  else if Wildcard.isWildcard text then .ok (.entries (Wildcard.parse text))
  else .ok (.name text)

def parse (text : Text) : Except Error (List Part) :=
  ((Path.namesOf text).mapM Part.parse).map fun parts =>
    .below :: parts ++ (if text.getLast? = some '/' then [.directories] else [])

/-- A place that cannot be looked at because something in it is too long. -/
structure TooLong where
  place : Text
  deriving DecidableEq, Repr

def enter (tree : FileTree) (here : Location) (reached : Reached) (name : Text) :
    Option (Except TooLong Reached) :=
  let path := reached.path.below [name]
  match tree.follow here path with
  | .ok location => some (.ok ⟨path,location⟩)
  | .error .missing => none
  | .error .tooLong => some (.error ⟨path.print⟩)

def entryPlace (path : Path) (name : Text) : Text :=
  if path.print = ['.'] then '.' :: '/' :: name else (path.below [name]).print

/-- The directory that an entry is or links to. Only a link has to be looked at to tell. -/
def enterDirectory (tree : FileTree) (here : Location) (wildcard : Wildcard) (reached : Reached)
    (name : Text) : Option (Except TooLong Reached) :=
  match tree.get? (reached.location ++ [name]) with
  | some .directory => if wildcard.matchesName name then enter tree here reached name else none
  | some (.link _) =>
    match enter tree here reached name with
    | some (.ok next) =>
      if tree.isDirectory next.location && wildcard.matchesName name then some (.ok next) else none
    | some (.error _) => some (.error ⟨entryPlace reached.path name⟩)
    | none => none
  | _ => none

/-- All that the parts of a pattern select from what was reached, and the places that cannot be
looked at. Only directories lead on to further parts. -/
def select (tree : FileTree) (here : Location) : List Part → Reached → List (Except TooLong Reached)
  | [], reached => [.ok reached]
  | .below :: parts, reached =>
    (tree.below reached.location).flatMap fun (names,node) =>
      match node with
      | .directory =>
        let next : Reached := ⟨reached.path.below names,reached.location ++ names⟩
        match tree.follow here next.path with
        | .error .tooLong => [.error ⟨next.path.print⟩]
        | _ => select tree here parts next
      | _ => []
  | [.entries wildcard], reached =>
    ((tree.entries reached.location).filter wildcard.matchesName).filterMap
      (enter tree here reached)
  | .entries wildcard :: parts, reached =>
    (tree.entries reached.location).flatMap fun name =>
      match enterDirectory tree here wildcard reached name with
      | some (.ok next) => select tree here parts next
      | some (.error place) => [.error place]
      | none => []
  | .name name :: parts, reached =>
    match enter tree here reached name with
    | some (.ok next) =>
      if parts = [] || tree.isDirectory next.location then select tree here parts next else []
    | some (.error place) => [.error place]
    | none => []
  | .directories :: parts, reached =>
    if tree.isDirectory reached.location then select tree here parts reached else []

end Glob
end SchemaLint
