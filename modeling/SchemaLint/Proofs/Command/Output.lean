import SchemaLint.Proofs.Collection.Listing
import SchemaLint.Proofs.Command.Verdict
import SchemaLint.Proofs.Report

/-! What the command prints as text. It is two lines for every finding, and as long as no path goes over
lines it tells all findings, in their order and with their paths.
-/
namespace SchemaLint.Command
open Text

def pairs (tree : FileTree) (files : List Reached) : List (Text × Diagnostic) :=
  files.flatMap fun reached =>
    (lintFile ((tree.contents? reached.location).getD [])).map fun diagnostic =>
      (reached.path.print,diagnostic)

/-- The findings that a collection leads to. Nothing is linted where a path is missing. -/
def told (tree : FileTree) (collection : Collection) : List (Text × Diagnostic) :=
  if collection.missing.isEmpty then pairs tree collection.files else []

/-- A run of the command that has files to lint collected and prints what it finds as text. -/
structure TextRun where
  loader : Settings.Loader
  environment : Environment
  tree : FileTree
  here : Location
  arguments : List Text
  settings : Settings
  options : Options
  collection : Collection
  outcome : Outcome
  loaded : (Settings.load loader environment (settingsFile? tree here)).2 = .ok settings
  parsed : Request.parse settings.suffix arguments = .ok (.lint options)
  format_eq : options.format = .text
  collected : Collection.ofPaths tree here options.suffix options.paths = .ok collection
  result_eq : (run loader environment tree here arguments).result = .ok outcome

namespace TextRun

def told (run : TextRun) : List (Text × Diagnostic) :=
  Command.told run.tree run.collection

/-- Whether the printed paths of all files to lint are single lines. -/
def InLine (run : TextRun) : Prop :=
  ∀ reached ∈ run.collection.files, '\n' ∉ reached.path.print

end TextRun

theorem ended_formatLines (diagnostic : Diagnostic) (path : Text) :
    ended (diagnostic.formatLines path) = diagnostic.format (some path) ++ ['\n'] := by
  rw [diagnostic.format_eq]
  simp [ended,Diagnostic.formatLines]

theorem ended_allLines (pairs : List (Text × Diagnostic)) : ended (Diagnostic.allLines pairs) =
    pairs.flatMap fun pair => pair.2.format (some pair.1) ++ ['\n'] := by
  simp only [← ended_formatLines,Diagnostic.allLines,ended,List.flatMap_assoc]

/-- Files without findings, which are left out, print nothing anyway. -/
theorem textReport_findings (tree : FileTree) (files : List Reached) :
    textReport (findings tree files) = ended (Diagnostic.allLines (pairs tree files)) := by
  rw [ended_allLines]
  induction files with
  | nil => rfl
  | cons reached files ih =>
    unfold findings pairs textReport at ih ⊢
    rw [List.map_cons,List.flatMap_cons,List.flatMap_append,← ih,List.flatMap_map,List.filter_cons]
    split
    · rfl
    · next clean =>
      have none : lintFile ((tree.contents? reached.location).getD []) = [] := by simpa using clean
      rw [none]
      rfl

theorem lintCollected_output (tree : FileTree) (level : Log.Level) {options : Options}
    (format : options.format = .text) (collection : Collection) :
    (lintCollected tree level options collection).output =
      ended (Diagnostic.allLines (told tree collection)) := by
  obtain ⟨files,missing⟩ := collection
  cases missing with
  | cons written missing => rfl
  | nil =>
    cases files with
    | nil => rfl
    | cons reached files =>
      unfold lintCollected
      dsimp only
      rw [format]
      exact textReport_findings tree (reached :: files)

theorem run_result_eq {loader : Settings.Loader} {environment : Environment} {tree : FileTree}
    {here : Location} {arguments : List Text} {settings : Settings} {level : Log.Level} {options : Options}
    {collection : Collection}
    (loaded : (Settings.load loader environment (settingsFile? tree here)).2 = .ok settings)
    (leveled : Log.Level.ofName? settings.logLevel = some level)
    (parsed : Request.parse settings.suffix arguments = .ok (.lint options))
    (collected : Collection.ofPaths tree here options.suffix options.paths = .ok collection) :
    (run loader environment tree here arguments).result =
      .ok (lintCollected tree level options collection) := by
  rw [run_lint loaded leveled parsed,collected]
  rfl

theorem registered_of_mem_pairs {tree : FileTree} {files : List Reached}
    {pair : Text × Diagnostic} (member : pair ∈ pairs tree files) :
    pair.2.Registered ∧ ∃ reached ∈ files, pair.1 = reached.path.print := by
  obtain ⟨reached,kept,inner⟩ := List.mem_flatMap.mp member
  obtain ⟨diagnostic,found,rfl⟩ := List.mem_map.mp inner
  exact ⟨Diagnostic.registered_of_mem found,reached,kept,rfl⟩

namespace TextRun
variable {run other : TextRun}

theorem output_eq (run : TextRun) : run.outcome.output = ended (Diagnostic.allLines run.told) := by
  have result := run.result_eq
  cases leveled : Log.Level.ofName? run.settings.logLevel with
  | none =>
    unfold Command.run runWith at result
    dsimp only at result
    rw [run.loaded] at result
    dsimp only at result
    rw [leveled] at result
    cases result
  | some level =>
    rw [run_result_eq run.loaded leveled run.parsed run.collected] at result
    rw [← Except.ok.inj result]
    exact lintCollected_output run.tree level run.format_eq run.collection

theorem mem_pairs_of_told {pair : Text × Diagnostic} (member : pair ∈ run.told) :
    pair ∈ pairs run.tree run.collection.files := by
  unfold told Command.told at member
  split at member
  · exact member
  · cases member

theorem registered {pair : Text × Diagnostic} (member : pair ∈ run.told) : pair.2.Registered :=
  (registered_of_mem_pairs (mem_pairs_of_told member)).1

theorem InLine.lines_clear (inLine : run.InLine) :
    ∀ line ∈ Diagnostic.allLines run.told, '\n' ∉ line := by
  intro line member
  obtain ⟨pair,kept,inner⟩ := List.mem_flatMap.mp member
  obtain ⟨registered,reached,collected,path⟩ := registered_of_mem_pairs (mem_pairs_of_told kept)
  refine registered.feed_notMem_formatLines ?_ line inner
  rw [path]
  exact inLine reached collected

theorem told_eq_of_output (inLine : run.InLine) (otherInLine : other.InLine)
    (same : run.outcome.output = other.outcome.output) : run.told = other.told := by
  rw [output_eq,output_eq] at same
  have lines := ended_injective same inLine.lines_clear otherInLine.lines_clear
  exact Diagnostic.allLines_injective (fun _ member => registered member)
    (fun _ member => registered member) lines

end TextRun

/-- Printed findings tell themselves and their paths, and so does the whole output of a run, which is
two lines for every finding. -/
theorem output_decodes :
    (∀ (text otherText : Text), ∀ diagnostic ∈ lint text, ∀ other ∈ lint otherText,
      ∀ path otherPath : Option Text, diagnostic.format path = other.format otherPath →
        diagnostic = other ∧ path.getD [] = otherPath.getD []) ∧
    ∀ run : TextRun, run.InLine →
      (∃ lines : List Text, run.outcome.output = lines.flatMap (· ++ ['\n']) ∧
        lines.length = 2 * run.told.length ∧ ∀ line ∈ lines, '\n' ∉ line) ∧
      ∀ other : TextRun, other.InLine → run.outcome.output = other.outcome.output →
        run.told = other.told := by
  constructor
  · intro text otherText diagnostic found other otherFound path otherPath same
    exact Diagnostic.format_injective (Diagnostic.registered_of_mem found)
      (Diagnostic.registered_of_mem otherFound) same
  · intro run inLine
    refine ⟨⟨Diagnostic.allLines run.told,run.output_eq,Diagnostic.length_allLines run.told,
      inLine.lines_clear⟩,?_⟩
    intro other otherInLine same
    exact TextRun.told_eq_of_output inLine otherInLine same

theorem ofPaths_aliased : Collection.ofPaths Collection.aliased [] ".lp.sql".toList
    ["l.lp.sql".toList,"a.lp.sql".toList] =
      .ok ⟨[⟨⟨[],["l.lp.sql".toList]⟩,["a.lp.sql".toList]⟩],[]⟩ := by
  have paths : Path.parse "l.lp.sql".toList = ⟨[],["l.lp.sql".toList]⟩ ∧
      Path.parse "a.lp.sql".toList = ⟨[],["a.lp.sql".toList]⟩ := by decide +kernel
  have file : (Collection.aliased.contents? ["a.lp.sql".toList]).isSome = true := by decide +kernel
  have link : Collection.aliased.follow [] ⟨[],["l.lp.sql".toList]⟩ = .ok ["a.lp.sql".toList] :=
    Collection.aliased_follow (by simp)
  have straight : Collection.aliased.follow [] ⟨[],["a.lp.sql".toList]⟩ =
      .ok ["a.lp.sql".toList] :=
    Collection.aliased_follow (by simp)
  rw [← paths.1] at link
  rw [← paths.2] at straight
  rw [Collection.ofPaths,List.mapM_cons,List.mapM_cons,Collection.contribution_of_file link file,
    Collection.contribution_of_file straight file,paths.1,paths.2]
  decide +kernel

theorem load_aliased : (Settings.load idle .empty (settingsFile? Collection.aliased [])).2 =
    .ok (.ofEnvironment .empty) := by
  rw [settingsFile?_eq_none (by decide +kernel)]
  decide +kernel

theorem parse_aliased : Request.parse (Settings.ofEnvironment .empty).suffix
    ["l.lp.sql".toList,"a.lp.sql".toList] =
      .ok (.lint ⟨["l.lp.sql".toList,"a.lp.sql".toList],".lp.sql".toList,.text⟩) := by
  decide +kernel

def aliasedRun : TextRun where
  loader := idle
  environment := .empty
  tree := Collection.aliased
  here := []
  arguments := ["l.lp.sql".toList,"a.lp.sql".toList]
  settings := .ofEnvironment .empty
  options := ⟨["l.lp.sql".toList,"a.lp.sql".toList],".lp.sql".toList,.text⟩
  collection := ⟨[⟨⟨[],["l.lp.sql".toList]⟩,["a.lp.sql".toList]⟩],[]⟩
  outcome := lintCollected Collection.aliased .info
    ⟨["l.lp.sql".toList,"a.lp.sql".toList],".lp.sql".toList,.text⟩
    ⟨[⟨⟨[],["l.lp.sql".toList]⟩,["a.lp.sql".toList]⟩],[]⟩
  loaded := load_aliased
  parsed := parse_aliased
  format_eq := rfl
  collected := ofPaths_aliased
  result_eq := run_result_eq load_aliased (by decide +kernel) parse_aliased ofPaths_aliased

theorem output_decodes_aliased : aliasedRun.InLine ∧
    (∃ diagnostic, ("l.lp.sql".toList,diagnostic) ∈ aliasedRun.told) ∧
    ∃ lines : List Text, aliasedRun.outcome.output = lines.flatMap (· ++ ['\n']) ∧
      lines.length = 2 * aliasedRun.told.length ∧ ∀ line ∈ lines, '\n' ∉ line := by
  have inLine : aliasedRun.InLine := by
    unfold TextRun.InLine
    decide +kernel
  have path : (⟨[],["l.lp.sql".toList]⟩ : Path).print = "l.lp.sql".toList := by decide +kernel
  have contents : Text.universalNewlines (Utf8.decode ((Collection.aliased.contents?
      ["a.lp.sql".toList]).getD [])) = "begin".toList := by decide +kernel
  have reports : Rule.transactionControl.ReportsAt "begin".toList 0 :=
    (Rule.mem_offsets (by simp [Rule.all]) _ 0).mp (by decide +kernel)
  have found : Rule.transactionControl.finding "begin".toList 0 ∈
      lintFile ((Collection.aliased.contents? ["a.lp.sql".toList]).getD []) := by
    unfold lintFile
    rw [contents]
    exact ((lint_spec _).2.2 _).mpr ⟨.transactionControl,by simp [Rule.all],0,reports,rfl⟩
  refine ⟨inLine,⟨Rule.transactionControl.finding "begin".toList 0,?_⟩,
    (output_decodes.2 aliasedRun inLine).1⟩
  rw [← path]
  exact List.mem_flatMap.mpr ⟨_,List.mem_cons_self,List.mem_map_of_mem found⟩

end SchemaLint.Command
