import SchemaLint.Command
import SchemaLint.Proofs.Collection
import SchemaLint.Proofs.Decision

/-! The verdict of the command. Its status and what it tells of each file follow from the files that its
paths lead to, so it does not matter how these are named or in which order.
-/
namespace SchemaLint.Command
open Collection

variable {tree : FileTree} {here : Location} {parts : List Glob.Part} {paths : List Text}

/-- Whether nothing is linted: a path leads to neither a file nor a directory, or none leads to a
file. -/
def Futile (tree : FileTree) (here : Location) (parts : List Glob.Part) (paths : List Text) : Prop :=
  (∃ written ∈ paths, tree.Lacks here written) ∨
    ∀ written ∈ paths, ∀ location, ¬ Leads tree here parts written location

structure Dirty (tree : FileTree) (here : Location) (parts : List Glob.Part) (paths : List Text)
    (location : Location) (diagnostics : List Diagnostic) : Prop where
  leads : ∃ written ∈ paths, Leads tree here parts written location
  found : ∃ contents, tree.contents? location = some contents ∧ lintFile contents = diagnostics
  nonempty : diagnostics ≠ []

/-- Whether findings tell just what there is to tell of files, of each file once, by a path that leads
to it. -/
structure Tells (tree : FileTree) (here : Location) (findings : List Finding)
    (told : Location → List Diagnostic → Prop) : Prop where
  once : findings.Pairwise fun a b => tree.follow here a.path ≠ tree.follow here b.path
  sound : ∀ finding ∈ findings, ∃ location, tree.follow here finding.path = .ok location ∧
    told location finding.diagnostics
  complete : ∀ location diagnostics, told location diagnostics → ∃ finding ∈ findings,
    tree.follow here finding.path = .ok location ∧ finding.diagnostics = diagnostics

structure Outcome.Concludes (outcome : Outcome) (tree : FileTree) (here : Location)
    (parts : List Glob.Part) (options : Options) : Prop where
  refused_iff : outcome.status = 2 ↔ Futile tree here parts options.paths
  silent : outcome.status = 2 → outcome.output = []
  dirty_iff : outcome.status = 1 ↔ outcome.status ≠ 2 ∧
    ∃ location diagnostics, Dirty tree here parts options.paths location diagnostics
  clean_iff : outcome.status = 0 ↔ outcome.status ≠ 2 ∧
    ∀ location diagnostics, ¬ Dirty tree here parts options.paths location diagnostics
  told : outcome.status ≠ 2 → ∃ findings, outcome.output = report options.format findings ∧
    Tells tree here findings (Dirty tree here parts options.paths)

theorem passed_iff {found : List Finding} (tells : Tells tree here found (Dirty tree here parts paths)) :
    (Decision.ofDiagnostics (found.flatMap Finding.diagnostics)).passed = true ↔
      ∀ location diagnostics, ¬ Dirty tree here parts paths location diagnostics := by
  rw [(Decision.concludes_ofDiagnostics _).passed_iff,List.flatMap_eq_nil_iff]
  constructor
  · intro clean location diagnostics dirty
    obtain ⟨finding,member,-,rfl⟩ := tells.complete location diagnostics dirty
    exact dirty.nonempty (clean finding member)
  · intro clean finding member
    obtain ⟨location,-,dirty⟩ := tells.sound finding member
    exact absurd dirty (clean location _)

/-- Whether two results come to the same verdict: both runs broke off on a path that is too long, or
they end with the same status and tell the same of the same files. -/
def SameVerdict (tree : FileTree) (here : Location) (options other : Options)
    (result otherResult : Except Fault Outcome) : Prop :=
  (∃ place elsewhere, result = .error (.collection (.tooLong place)) ∧
      otherResult = .error (.collection (.tooLong elsewhere))) ∨
    ∃ outcome otherOutcome, result = .ok outcome ∧ otherResult = .ok otherOutcome ∧
      outcome.status = otherOutcome.status ∧
      (outcome.status = 2 ∧ outcome.output = [] ∧ otherOutcome.output = [] ∨
        ∃ findings otherFindings told, outcome.output = report options.format findings ∧
          otherOutcome.output = report other.format otherFindings ∧
          Tells tree here findings told ∧ Tells tree here otherFindings told)

theorem run_lint {loader : Settings.Loader} {environment : Environment} {settings : Settings}
    {level : Log.Level} {arguments : List Text} {options : Options}
    (loaded : (Settings.load loader environment (settingsFile? tree here)).2 = .ok settings)
    (leveled : Log.Level.ofName? settings.logLevel = some level)
    (parsed : Request.parse settings.suffix arguments = .ok (.lint options)) :
    (run loader environment tree here arguments).result =
      ((ofPaths tree here options.suffix options.paths).map
        (lintCollected tree level options)).mapError .collection := by
  unfold run runWith
  dsimp only
  rw [loaded]
  dsimp only
  rw [leveled,parsed]
  dsimp only
  cases ofPaths tree here options.suffix options.paths <;> rfl

def idle : Settings.Loader :=
  ⟨fun environment _ => (environment,none),fun _ _ => []⟩

theorem settingsFile?_eq_none (absent : tree.get? (here ++ [settingsFileName]) = none) :
    settingsFile? tree here = none := by
  have path : Path.parse settingsFileName = ⟨[],[settingsFileName]⟩ := by decide +kernel
  unfold settingsFile?
  rw [path,FileTree.follow_name tree here (by decide) (by decide) (by decide),
    FileTree.resolve_absent _ _ (by decide) (by decide) absent]
  rfl

end SchemaLint.Command
