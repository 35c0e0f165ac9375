import SchemaLint.Command.Argument
import SchemaLint.Command.Template
import SchemaLint.Text.Decimal
import SchemaLint.Text.Fill

/-! What the command tells of itself: its usage, its help and how it refuses a command line.
-/
namespace SchemaLint.Command

def programName : Text := "lpsql-check".toList

def usage : Text :=
  ("usage: lpsql-check [-h] [--suffix SUFFIX] [--format \x7btext,json\x7d]\n" ++
    "                   paths [paths ...]\n").toList

/-- A letter that is not plain ASCII is not shown. -/
def Template.Error.message : Template.Error → Text
  | nameUnknown name => Text.quoted name
  | nameUnclosed => "incomplete format key".toList
  | incomplete => "incomplete format".toList
  | letterUnknown letter offset =>
    let shown := if 31 ≤ letter.toNat && letter.toNat ≤ 126 then letter else '?'
    "unsupported format character '".toList ++ shown :: "' (0x".toList ++
      Nat.toDigits 16 letter.toNat ++ ") at index ".toList ++ Decimal.ofNat offset
  | widthTooBig => "width too big".toList
  | precisionTooBig => "precision too big".toList
  | tooLong => []
  | notSize => "* wants int".toList
  | valuesExhausted => "not enough arguments for format string".toList
  | notNumber letter kind =>
    '%' :: letter :: " format: a real number is required, not ".toList ++ kind
  | notInteger letter kind =>
    '%' :: letter :: " format: an integer is required, not ".toList ++ kind
  | notFraction kind => "must be real number, not ".toList ++ kind
  | notCharacter => "%c requires int or char".toList

namespace Help

def margin : Nat := 24

def width : Nat := 54

/-- The description of the suffix that directories are searched for. The suffix becomes part of it
before it is filled in. -/
def suffixTemplate (suffix : Text) : Text :=
  "File suffix collected from directories (default: ".toList ++ suffix ++ [')']

def values (suffix : Text) : List (Text × Template.Value) :=
  [("option_strings".toList,.texts [Setting.suffix.name]),
    ("dest".toList,.text "suffix".toList),
    ("nargs".toList,.absent),
    ("const".toList,.absent),
    ("default".toList,.text suffix),
    ("type".toList,.absent),
    ("choices".toList,.absent),
    ("required".toList,.no),
    ("help".toList,.text (suffixTemplate suffix)),
    ("metavar".toList,.absent),
    ("container".toList,.group),
    ("prog".toList,.text programName)]

def suffixDescription (suffix : Text) : Except Template.Error Text :=
  Template.fill (values suffix) (suffixTemplate suffix)

def collapseGaps : Text → Text
  | [] => []
  | c :: rest =>
    if Text.isGap c then
      match rest with
      | d :: _ => if Text.isGap d then collapseGaps rest else ' ' :: collapseGaps rest
      | [] => [' ']
    else c :: collapseGaps rest

def entry (argument : Text) (description : Text) : Text :=
  let indent := List.replicate margin ' '
  let head := "  ".toList ++ argument
  let lines := Text.fill width (Text.trim (collapseGaps description))
  head ++ List.replicate (margin - head.length) ' ' ++ ('\n' :: indent).intercalate lines ++ ['\n']

def text (suffix : Text) : Except Template.Error Text :=
  (suffixDescription suffix).map fun description =>
    usage ++
      "\nFail the build when declarative schema SQL contains forbidden constructs.\n".toList ++
      "\npositional arguments:\n".toList ++
      entry "paths".toList "Files or directories to lint".toList ++
      "\noptions:\n".toList ++
      entry "-h, --help".toList "show this help message and exit".toList ++
      entry "--suffix SUFFIX".toList description ++
      entry "--format \x7btext,json\x7d".toList "Output format".toList

end Help

def UsageError.complaint (error : UsageError) : Text :=
  usage ++ programName ++ ": error: ".toList ++ error.message ++ ['\n']

end SchemaLint.Command
