import SchemaLint.Glob
import SchemaLint.Proofs.FileTree

/-! What the pattern of an ending selects. A star and an ending select, in each directory at or below
the one that is searched, the entries whose names end so; what cannot be looked at on the way is told
in their place.
-/
namespace SchemaLint.Glob

variable {tree : FileTree} {here : Location} {wildcard : Wildcard} {start reached : Reached}

end SchemaLint.Glob
