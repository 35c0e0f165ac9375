import SchemaLint.Proofs.Lint

/-! Contexts that any steps lead to, in any order and with some of them refused. What was seen tells
what was reported, and only a place in front of the text is refused: its key is seen from then on.
-/
namespace SchemaLint
namespace ScanContext
open Text

def Step.rule : Step → Rule
  | .add rule _ => rule
  | .scan rule => rule

def Step.keys (searched : Text) : Step → List (Code × Int)
  | .add rule offset => [(rule.code,offset)]
  | .scan rule => (rule.offsets searched).map fun offset : Nat => (rule.code,(offset : Int))

/-- The context that steps lead to. A step that is refused does not end the run. -/
def run (context : ScanContext) (steps : List Step) : ScanContext :=
  steps.foldl (fun context step => (context.step step).1) context

def Tells (text : Text) (key : Code × Int) (diagnostic : Diagnostic) : Prop :=
  ∃ rule ∈ Rule.all, rule.code = key.1 ∧ diagnostic.code = rule.code ∧
    diagnostic.message = rule.message ∧
    Position.ofOffset text key.2 = ⟨diagnostic.line,diagnostic.column,diagnostic.snippet⟩

/-- Whether a step is to be refused: it reports in front of the text what was not tried before. -/
def Refuses (context : ScanContext) (step : Step) : Prop :=
  ∃ rule offset, step = .add rule offset ∧ offset < 0 ∧
    ¬ context.seen.contains (rule.code,offset) = true

structure Lawful (text : Text) (context : ScanContext) : Prop where
  /-- The diagnostics go one to one with the keys in the text that were seen. -/
  keys : ∃ keys : List (Code × Int), keys.Nodup ∧
    (∀ key, key ∈ keys ↔ context.seen.contains key = true ∧ 0 ≤ key.2) ∧
    List.Forall₂ (Tells text) keys context.diagnostics.toList
  distinct : context.diagnostics.toList.Nodup
  error_iff : ∀ step : Step, step.rule ∈ Rule.all →
    ((∃ errors, (context.step step).2 = .error errors) ↔ context.Refuses step)
  /-- A step that is refused leaves its key and changes nothing else. -/
  refused : ∀ rule ∈ Rule.all, ∀ offset, context.Refuses (.add rule offset) →
    context.step (.add rule offset) =
      ({ context with seen := context.seen.insert (rule.code,offset) },
        .error [⟨["column".toList],.belowOne⟩])
  scanned : ∀ rule ∈ Rule.all, ∃ next, context.step (.scan rule) = (next,.ok ())

def Agrees (context other : ScanContext) : Prop :=
  (∀ key, context.seen.contains key = other.seen.contains key) ∧
    context.diagnostics.toList.Perm other.diagnostics.toList

def Consistent (text searched : Text) (context : ScanContext) : Prop :=
  ∃ reports, Holds text searched reports context ∧ reports.Nodup ∧
    ∀ report ∈ reports, report.1 ∈ Rule.all

variable {text searched : Text} {reports : List (Rule × Nat)} {context : ScanContext}

theorem add_of_seen {rule : Rule} {offset : Int}
    (seen : context.seen.contains (rule.code,offset) = true) :
    context.add rule offset = (context,.ok ()) := by
  rw [ScanContext.add,if_pos seen]

theorem seen_add (context : ScanContext) (rule : Rule) (offset : Int) (key : Code × Int) :
    (context.add rule offset).1.seen.contains key = true ↔
      context.seen.contains key = true ∨ key = (rule.code,offset) := by
  by_cases seen : context.seen.contains (rule.code,offset) = true
  · rw [add_of_seen seen]
    refine ⟨.inl,?_⟩
    rintro (before | rfl)
    · exact before
    · exact seen
  · rw [ScanContext.add,if_neg seen]
    dsimp only
    have inserted : (context.seen.insert (rule.code,offset)).contains key = true ↔
        context.seen.contains key = true ∨ key = (rule.code,offset) := by
      rw [Std.HashSet.contains_insert,Bool.or_eq_true,beq_iff_eq,or_comm,eq_comm (a := key)]
    split
    · exact inserted
    · exact inserted

theorem addAll_of_seen {rule : Rule} {offsets : List Nat}
    (seen : ∀ offset ∈ offsets, context.seen.contains (rule.code,(offset : Int)) = true) :
    context.addAll rule offsets = (context,.ok ()) := by
  induction offsets with
  | nil => rfl
  | cons offset offsets ih =>
    rw [addAll,add_of_seen (seen offset List.mem_cons_self)]
    exact ih fun later member => seen later (List.mem_cons_of_mem _ member)

theorem Holds.add_refused (holds : Holds text searched reports context) (rule : Rule) {offset : Int}
    (negative : offset < 0) (unseen : ¬ context.seen.contains (rule.code,offset) = true) :
    context.add rule offset = ({ context with seen := context.seen.insert (rule.code,offset) },
      .error [⟨["column".toList],.belowOne⟩]) := by
  rw [ScanContext.add,if_neg unseen]
  dsimp only
  rw [holds.length,holds.lines,Diagnostic.ofPosition_negative rule text negative]
  rfl

theorem Holds.note (holds : Holds text searched reports context) (rule : Rule) {offset : Int}
    (negative : offset < 0) :
    Holds text searched reports
      { context with seen := context.seen.insert (rule.code,offset) } where
  length := holds.length
  lines := holds.lines
  sanitized := holds.sanitized
  diagnostics := holds.diagnostics
  seen := by
    intro code place
    have other : ¬ (rule.code,offset) = (code,(place : Int)) := by
      rw [Prod.mk.injEq]
      omega
    simp [Std.HashSet.contains_insert,other,holds.seen]

namespace Consistent

theorem ofText (text : Text) :
    Consistent text (Comment.neutralize text) (ScanContext.ofText text) :=
  ⟨[],holds_ofTexts text _,.nil,by simp⟩

theorem seen_iff {rule : Rule} (holds : Holds text searched reports context)
    (registered : ∀ report ∈ reports, report.1 ∈ Rule.all) (member : rule ∈ Rule.all)
    (offset : Nat) : context.seen.contains (rule.code,(offset : Int)) = true ↔
      (rule,offset) ∈ reports := by
  rw [holds.seen]
  constructor
  · rintro ⟨⟨other,place⟩,found,code,rfl⟩
    rw [← Rule.eq_of_code (registered _ found) member code]
    exact found
  · intro found
    exact ⟨_,found,rfl,rfl⟩

/-- A report keeps a context consistent, also where it is refused or was made before; only a place in
front of the text is refused. -/
theorem add (consistent : Consistent text searched context) {rule : Rule} (member : rule ∈ Rule.all)
    (offset : Int) : Consistent text searched (context.add rule offset).1 ∧
      (0 ≤ offset → (context.add rule offset).2 = .ok ()) := by
  obtain ⟨reports,holds,distinct,registered⟩ := consistent
  by_cases seen : context.seen.contains (rule.code,offset) = true
  · rw [add_of_seen seen]
    exact ⟨⟨reports,holds,distinct,registered⟩,fun _ => rfl⟩
  · rcases Int.lt_or_le offset 0 with negative | inside
    · rw [holds.add_refused rule negative seen]
      exact ⟨⟨reports,holds.note rule negative,distinct,registered⟩,fun inside => by omega⟩
    · obtain ⟨place,rfl⟩ := Int.eq_ofNat_of_zero_le inside
      obtain ⟨next,added,holdsNext⟩ := holds.add rule seen
      rw [added]
      refine ⟨⟨_,holdsNext,?_,?_⟩,fun _ => rfl⟩
      · rw [seen_iff holds registered member] at seen
        exact List.nodup_append'.mpr ⟨distinct,List.nodup_singleton _,by simpa using seen⟩
      · intro report inReports
        rcases List.mem_append.mp inReports with before | here
        · exact registered report before
        · rw [List.mem_singleton.mp here]
          exact member

theorem addAll (consistent : Consistent text searched context) {rule : Rule}
    (member : rule ∈ Rule.all) (offsets : List Nat) :
    ∃ next, context.addAll rule offsets = (next,.ok ()) ∧ Consistent text searched next ∧
      ∀ key, next.seen.contains key = true ↔ context.seen.contains key = true ∨
        key ∈ offsets.map fun offset : Nat => (rule.code,(offset : Int)) := by
  induction offsets generalizing context with
  | nil => exact ⟨context,rfl,consistent,by simp⟩
  | cons offset offsets ih =>
    obtain ⟨kept,ok⟩ := consistent.add member offset
    obtain ⟨next,added,consistent,seen⟩ := ih kept
    have first : context.add rule offset = ((context.add rule offset).1,.ok ()) :=
      Prod.ext rfl (ok (by omega))
    refine ⟨next,?_,consistent,?_⟩
    · rw [ScanContext.addAll,first]
      exact added
    · intro key
      rw [seen,seen_add,List.map_cons,List.mem_cons,or_assoc]

theorem sweep (consistent : Consistent text searched context) {rule : Rule}
    (member : rule ∈ Rule.all) :
    ∃ next, context.sweep rule = (next,.ok ()) ∧ Consistent text searched next ∧
      ∀ key, next.seen.contains key = true ↔ context.seen.contains key = true ∨
        key ∈ (rule.offsets searched).map fun offset : Nat => (rule.code,(offset : Int)) := by
  have sanitized : context.sanitized = searched := by
    obtain ⟨reports,holds,-⟩ := consistent
    exact holds.sanitized
  rw [ScanContext.sweep,sanitized]
  exact consistent.addAll member (rule.offsets searched)

theorem step (consistent : Consistent text searched context) (step : Step)
    (member : step.rule ∈ Rule.all) : Consistent text searched (context.step step).1 ∧
      ∀ key, (context.step step).1.seen.contains key = true ↔
        context.seen.contains key = true ∨ key ∈ step.keys searched := by
  cases step with
  | add rule offset =>
    refine ⟨(consistent.add member offset).1,fun key => ?_⟩
    exact (seen_add context rule offset key).trans (or_congr_right List.mem_singleton.symm)
  | scan rule =>
    have registered : rule ∈ Rule.all := member
    obtain ⟨next,swept,kept,seen⟩ := consistent.sweep registered
    rw [ScanContext.step,swept]
    exact ⟨kept,seen⟩

/-- What a run has seen are the keys of its steps, whatever their order. -/
theorem run (consistent : Consistent text searched context) {steps : List Step}
    (registered : ∀ step ∈ steps, step.rule ∈ Rule.all) :
    Consistent text searched (context.run steps) ∧
      ∀ key, (context.run steps).seen.contains key = true ↔
        context.seen.contains key = true ∨ ∃ step ∈ steps, key ∈ step.keys searched := by
  induction steps generalizing context with
  | nil => exact ⟨consistent,by simp [ScanContext.run]⟩
  | cons step steps ih =>
    obtain ⟨kept,seen⟩ := consistent.step step (registered step List.mem_cons_self)
    obtain ⟨reached,seenBehind⟩ := ih kept fun later member =>
      registered later (List.mem_cons_of_mem _ member)
    refine ⟨reached,fun key => (seenBehind key).trans ?_⟩
    rw [seen]
    simp [or_assoc]

theorem diagnostics_perm {other : ScanContext} (consistent : Consistent text searched context)
    (otherConsistent : Consistent text searched other)
    (same : ∀ key, context.seen.contains key = other.seen.contains key) :
    context.diagnostics.toList.Perm other.diagnostics.toList := by
  obtain ⟨reports,holds,distinct,registered⟩ := consistent
  obtain ⟨others,otherHolds,otherDistinct,otherRegistered⟩ := otherConsistent
  rw [holds.diagnostics,otherHolds.diagnostics]
  refine List.Perm.map _ ((List.perm_ext_iff_of_nodup distinct otherDistinct).mpr ?_)
  rintro ⟨rule,offset⟩
  constructor
  · intro found
    have seen := (seen_iff holds registered (registered _ found) offset).mpr found
    rw [same] at seen
    exact (seen_iff otherHolds otherRegistered (registered _ found) offset).mp seen
  · intro found
    have seen := (seen_iff otherHolds otherRegistered (otherRegistered _ found) offset).mpr found
    rw [← same] at seen
    exact (seen_iff holds registered (otherRegistered _ found) offset).mp seen

theorem exists_keys (consistent : Consistent text searched context) :
    ∃ keys : List (Code × Int), keys.Nodup ∧
      (∀ key, key ∈ keys ↔ context.seen.contains key = true ∧ 0 ≤ key.2) ∧
      List.Forall₂ (Tells text) keys context.diagnostics.toList := by
  obtain ⟨reports,holds,distinct,registered⟩ := consistent
  refine ⟨reports.map fun report => (report.1.code,(report.2 : Int)),?_,?_,?_⟩
  · refine List.Nodup.map_on ?_ distinct
    rintro ⟨rule,offset⟩ found ⟨other,place⟩ otherFound equal
    obtain ⟨code,offsets⟩ := Prod.mk.inj equal
    exact Prod.ext (Rule.eq_of_code (registered _ found) (registered _ otherFound) code)
      (Int.natCast_inj.mp offsets)
  · rintro ⟨code,offset⟩
    rw [List.mem_map]
    constructor
    · rintro ⟨⟨rule,place⟩,found,equal⟩
      obtain ⟨rfl,rfl⟩ := Prod.mk.inj equal
      exact ⟨(seen_iff holds registered (registered _ found) place).mpr found,Int.natCast_nonneg _⟩
    · rintro ⟨seen,inside⟩
      obtain ⟨place,rfl⟩ := Int.eq_ofNat_of_zero_le inside
      obtain ⟨report,found,rfl,rfl⟩ := (holds.seen code place).mp seen
      exact ⟨report,found,rfl⟩
  · rw [holds.diagnostics,List.forall₂_map_left_iff,List.forall₂_map_right_iff,List.forall₂_same]
    rintro ⟨rule,offset⟩ found
    exact ⟨rule,registered _ found,rfl,rfl,rfl,Diagnostic.within_eq rule text offset⟩

theorem diagnostics_nodup (consistent : Consistent text searched context) :
    context.diagnostics.toList.Nodup := by
  obtain ⟨reports,holds,distinct,registered⟩ := consistent
  rw [holds.diagnostics]
  refine List.Nodup.map_on ?_ distinct
  rintro ⟨rule,offset⟩ found ⟨other,place⟩ otherFound equal
  have rules := Rule.eq_of_code (registered _ found) (registered _ otherFound)
    (congrArg Diagnostic.code equal)
  have isAt := (rule.finding_isAt_iff text offset offset).mpr rfl
  rw [show rule.finding text offset = other.finding text place from equal,
    Rule.finding_isAt_iff] at isAt
  exact Prod.ext rules isAt.symm

theorem refused_step (consistent : Consistent text searched context) (rule : Rule) {offset : Int}
    (refuses : context.Refuses (.add rule offset)) :
    context.step (.add rule offset) =
      ({ context with seen := context.seen.insert (rule.code,offset) },
        .error [⟨["column".toList],.belowOne⟩]) := by
  obtain ⟨reports,holds,-⟩ := consistent
  obtain ⟨other,place,equal,negative,unseen⟩ := refuses
  obtain ⟨rfl,rfl⟩ := Step.add.inj equal
  exact holds.add_refused rule negative unseen

theorem lawful (consistent : Consistent text searched context) : Lawful text context where
  keys := consistent.exists_keys
  distinct := consistent.diagnostics_nodup
  error_iff := by
    intro step member
    constructor
    · rintro ⟨errors,failed⟩
      cases step with
      | scan rule =>
        have registered : rule ∈ Rule.all := member
        obtain ⟨next,swept,-⟩ := consistent.sweep registered
        rw [ScanContext.step,swept] at failed
        cases failed
      | add rule offset =>
        have registered : rule ∈ Rule.all := member
        refine ⟨rule,offset,rfl,?_,?_⟩
        · by_contra inside
          rw [ScanContext.step,(consistent.add registered offset).2 (by omega)] at failed
          cases failed
        · intro seen
          rw [ScanContext.step,add_of_seen seen] at failed
          cases failed
    · rintro ⟨rule,offset,rfl,refuses⟩
      exact ⟨_,congrArg Prod.snd (consistent.refused_step rule ⟨rule,offset,rfl,refuses⟩)⟩
  refused := fun rule _ _ refuses => consistent.refused_step rule refuses
  scanned := by
    intro rule member
    obtain ⟨next,swept,-⟩ := consistent.sweep member
    exact ⟨next,swept⟩

end Consistent

/-- Every run leads to a lawful context. A rule that was scanned before finds nothing new, and the
same steps in another order lead to a context that agrees. -/
theorem run_lawful (text : Text) {steps : List Step}
    (registered : ∀ step ∈ steps, step.rule ∈ Rule.all) :
    Lawful text ((ofText text).run steps) ∧
      (∀ rule, Step.scan rule ∈ steps →
        ((ofText text).run steps).step (.scan rule) = ((ofText text).run steps,.ok ())) ∧
      ∀ others, steps.Perm others →
        ((ofText text).run steps).Agrees ((ofText text).run others) := by
  have start := Consistent.ofText text
  obtain ⟨reached,seen⟩ := start.run registered
  refine ⟨reached.lawful,?_,?_⟩
  · intro rule scanned
    obtain ⟨reports,holds,-⟩ := reached
    rw [step,sweep,holds.sanitized]
    refine addAll_of_seen fun offset found => (seen _).mpr (.inr ⟨_,scanned,?_⟩)
    exact List.mem_map.mpr ⟨offset,found,rfl⟩
  · intro others same
    obtain ⟨otherReached,otherSeen⟩ := start.run fun step (member : step ∈ others) =>
      registered step (same.mem_iff.mpr member)
    have keys : ∀ key, ((ofText text).run steps).seen.contains key =
        ((ofText text).run others).seen.contains key := by
      intro key
      rw [Bool.eq_iff_iff,seen,otherSeen]
      simp only [same.mem_iff]
    exact ⟨keys,reached.diagnostics_perm otherReached keys⟩

/-- A report in front of the text is refused, and one at its start is made before the scan finds the
same place. -/
theorem run_lawful_refused :
    let text := "begin".toList
    let steps := [.add Rule.alterDrop (-3),.add Rule.transactionControl 0,
      .scan Rule.transactionControl]
    (∀ step ∈ steps, step.rule ∈ Rule.all) ∧ Lawful text ((ofText text).run steps) ∧
    (∀ rule, Step.scan rule ∈ steps →
      ((ofText text).run steps).step (.scan rule) = ((ofText text).run steps,.ok ())) ∧
    ∀ others, steps.Perm others → ((ofText text).run steps).Agrees ((ofText text).run others) := by
  intro text steps
  have registered : ∀ step ∈ steps, step.rule ∈ Rule.all := by
    simp [steps,Step.rule,Rule.all]
  exact ⟨registered,run_lawful text registered⟩

end ScanContext
end SchemaLint
