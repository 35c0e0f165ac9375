import SchemaLint.Glob
import SchemaLint.Text.Quoted

/-! The files to lint, collected from paths. A path to a file contributes that file; a path to a
directory, the files below it whose names end as asked, in order. A file that is reached in several
ways is kept where it was reached first. Paths that lead to neither are missing.
-/
namespace SchemaLint

structure Collection where
  files : List Reached
  missing : List Text
  deriving DecidableEq, Repr

namespace Collection

inductive Error where
  | pattern (error : Glob.Error)
  | tooLong (place : Text)
  deriving DecidableEq, Repr

def Error.message : Error → Text
  | pattern error => error.message
  | tooLong place => "[Errno 36] File name too long: ".toList ++ Text.quoted place

/-- Each file once, as it was reached first. -/
def firsts : List Reached → List Reached
  | [] => []
  | reached :: rest => reached :: (firsts rest).filter (·.location ≠ reached.location)

def filesBelow (tree : FileTree) (here : Location) (suffix : Text) (start : Reached) :
    Except Error (List Reached) :=
  match Glob.parse ('*' :: suffix) with
  | .error error => .error (.pattern error)
  | .ok parts =>
    match (Glob.select tree here parts start).mapM id with
    | .error tooLong => .error (.tooLong tooLong.place)
    | .ok selected =>
      .ok ((selected.filter fun reached =>
        (tree.contents? reached.location).isSome).mergeSort fun a b => a.path.atOrBefore b.path)

def contribution (tree : FileTree) (here : Location) (suffix written : Text) :
    Except Error (Option (List Reached)) :=
  let path := Path.parse written
  match tree.follow here path with
  | .error .missing => .ok none
  | .error .tooLong => .error (.tooLong path.print)
  | .ok location =>
    match tree.get? location with
    | some (.file _) => .ok (some [⟨path,location⟩])
    | some .directory => (filesBelow tree here suffix ⟨path,location⟩).map some
    | _ => .ok none

def ofPaths (tree : FileTree) (here : Location) (suffix : Text) (paths : List Text) :
    Except Error Collection :=
  (paths.mapM (contribution tree here suffix)).map fun contributions =>
    { files := firsts (contributions.filterMap id).flatten
      missing := (paths.zip contributions).filterMap fun (written,contributed) =>
        if contributed.isNone then some written else none }

end Collection
end SchemaLint
