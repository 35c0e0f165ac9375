import SchemaLint.Path
import SchemaLint.Text.Utf8

/-! Trees of files, directories and symbolic links. A tree is given by what stands at each location;
every location but the topmost lies in a directory of the tree. Names and the targets of links are
texts, so the bytes behind them are taken to be UTF-8: others would be read as lone surrogates, which
no text holds. Everything may be read, and nothing but files, links and directories stands in a tree.
-/
namespace SchemaLint

abbrev Location := List Text

inductive Node where
  | file (contents : Bytes)
  /-- Leads to where its target does, seen from the directory that it stands in. -/
  | link (target : Text)
  | directory
  deriving DecidableEq, Repr

def isEntryName (name : Text) : Bool :=
  name ≠ [] && name ≠ ['.'] && name ≠ ['.','.'] && !name.contains '/' && !name.contains '\x00'

structure FileTree where
  nodes : List (Location × Node)
  nodup : (nodes.map Prod.fst).Nodup
  root_mem : ([],Node.directory) ∈ nodes
  /-- What stands below a location stands in a directory. -/
  parent_mem : ∀ {location name node}, (location ++ [name],node) ∈ nodes →
    isEntryName name = true ∧ (location,Node.directory) ∈ nodes

namespace FileTree

def empty : FileTree where
  nodes := [([],.directory)]
  nodup := by simp
  root_mem := by simp
  parent_mem := by simp

def get? (tree : FileTree) (location : Location) : Option Node :=
  tree.nodes.lookup location

theorem mem_of_get? {tree : FileTree} {location : Location} {node : Node}
    (found : tree.get? location = some node) : (location,node) ∈ tree.nodes := by
  obtain ⟨before,after,split,_⟩ := List.lookup_eq_some_iff.1 found
  simp [split]

theorem notMem_of_get?_eq_none {tree : FileTree} {location : Location}
    (absent : tree.get? location = none) : location ∉ tree.nodes.map Prod.fst := by
  intro member
  obtain ⟨entry,stands,rfl⟩ := List.mem_map.1 member
  simpa using List.lookup_eq_none_iff.1 absent entry stands

theorem lookup_of_mem {nodes : List (Location × Node)} {location : Location} {node : Node}
    (nodup : (nodes.map Prod.fst).Nodup) (stands : (location,node) ∈ nodes) :
    nodes.lookup location = some node := by
  induction nodes with
  | nil => cases stands
  | cons head rest ih =>
    rw [List.map_cons,List.nodup_cons] at nodup
    rcases List.mem_cons.1 stands with rfl | stands
    · simp
    · have differ : location ≠ head.1 := by
        rintro rfl
        exact nodup.1 (List.mem_map.2 ⟨_,stands,rfl⟩)
      rw [List.lookup_cons,beq_false_of_ne differ]
      exact ih nodup.2 stands

theorem get?_eq_some_iff {tree : FileTree} {location : Location} {node : Node} :
    tree.get? location = some node ↔ (location,node) ∈ tree.nodes :=
  ⟨mem_of_get?,lookup_of_mem tree.nodup⟩

def isDirectory (tree : FileTree) (location : Location) : Bool :=
  tree.get? location == some .directory

/-- Puts something new into a directory. Nothing is put where something stands, or where there is no
directory to hold it. -/
def insert (tree : FileTree) (location : Location) (name : Text) (node : Node) : FileTree :=
  if fits : isEntryName name = true ∧ tree.get? location = some .directory ∧
      tree.get? (location ++ [name]) = none then
    { nodes := (location ++ [name],node) :: tree.nodes
      nodup := by
        simpa using ⟨by simpa using notMem_of_get?_eq_none fits.2.2,tree.nodup⟩
      root_mem := List.mem_cons_of_mem _ tree.root_mem
      parent_mem := by
        intro place entry other member
        rcases List.mem_cons.1 member with same | member
        · obtain ⟨samePlace,sameName⟩ := List.append_inj' (Prod.mk.inj same).1 rfl
          obtain rfl := List.singleton_inj.1 sameName
          subst samePlace
          exact ⟨fits.1,List.mem_cons_of_mem _ (mem_of_get? fits.2.1)⟩
        · exact (tree.parent_mem member).imp id (List.mem_cons_of_mem _) }
  else tree

def insertBelow (tree : FileTree) (location : Location) (node : Node) : List Text → FileTree
  | [] => tree
  | [name] => tree.insert location name node
  | name :: names => (tree.insert location name .directory).insertBelow (location ++ [name]) node names

def entries (tree : FileTree) (location : Location) : List Text :=
  (tree.nodes.filterMap fun (place,_) =>
    place.getLast?.filter fun name => place = location ++ [name]).mergeSort Path.nameAtOrBefore

/-- What stands at or below a location, with the names that lead there, links not followed. What
stands in a directory comes behind it. -/
def below (tree : FileTree) (location : Location) : List (List Text × Node) :=
  (tree.nodes.filterMap fun (place,node) =>
    if location.isPrefixOf place then some (place.drop location.length,node)
    else none).mergeSort fun a b => Path.namesAtOrBefore a.1 b.1

/-- The names that the target of a link goes through. A closing slash asks for a directory, as a dot
does. -/
def targetNames (target : Text) : List Text :=
  Text.fieldsBy (· = '/') target ++ (if target.getLast? = some '/' then [['.']] else [])

inductive Astray where
  | missing
  | tooLong
  deriving DecidableEq, Repr

def nameLimit : Nat := 255

/-- Goes from a directory by names and through links to what stands there, through as many links as
are allowed. Above the topmost directory there is only itself. -/
def resolve (tree : FileTree) (links : Nat) (location : Location) :
    List Text → Except Astray Location
  | [] => .ok location
  | name :: names =>
    if !tree.isDirectory location then .error .missing
    else if name = ['.'] then tree.resolve links location names
    else if name = ['.','.'] then tree.resolve links location.dropLast names
    else if nameLimit < Utf8.size name then .error .tooLong
    else
      match tree.get? (location ++ [name]) with
      | none => .error .missing
      | some (.link target) =>
        match links with
        | 0 => .error .missing
        | links + 1 =>
          let start := if target.head? = some '/' then [] else location
          tree.resolve links start (targetNames target ++ names)
      | some _ => tree.resolve links (location ++ [name]) names
termination_by names => (links,names.length)

def linkLimit : Nat := 40

def pathLimit : Nat := 4095

/-- Where a path leads from a directory. One with a zero character in it leads nowhere. -/
def follow (tree : FileTree) (here : Location) (path : Path) : Except Astray Location :=
  let text := path.print
  if text.contains '\x00' then .error .missing
  else if pathLimit < Utf8.size text then .error .tooLong
  else tree.resolve linkLimit (if path.root.isEmpty then here else []) path.names

def contents? (tree : FileTree) (location : Location) : Option Bytes :=
  match tree.get? location with
  | some (.file contents) => some contents
  | _ => none

end FileTree
end SchemaLint
