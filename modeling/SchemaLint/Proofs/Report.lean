import SchemaLint.Report
import SchemaLint.Proofs.Lint
import SchemaLint.Proofs.Text.Cut
import SchemaLint.Proofs.Text.Trim

/-! The two lines that a finding is printed as. They are read from the end: a snippet is one line, the
messages of rules do not end in each other, and line and column are all digits, so both lines tell
the finding and the path, whatever stands in the path.
-/
namespace SchemaLint
open Text

/-- A message is one line, and none ends in the message of another rule. -/
theorem Rule.messages_apart : ∀ rule ∈ Rule.all, '\n' ∉ rule.message ∧
    ∀ other ∈ Rule.all, rule.message <:+ other.message → rule.code = other.code := by
  unfold all createOrReplace dropStatement transactionControl conditionalDefinition alterDrop
  -- The characters are read off the five literals, which is slow to do by evaluation.
  rw [String.toList_ofList,String.toList_ofList,String.toList_ofList,String.toList_ofList,
    String.toList_ofList]
  decide +kernel

theorem Code.feed_notMem_name (code : Code) : '\n' ∉ code.name := by
  cases code <;> decide

theorem Text.feed_notMem_line (before behind : Text) :
    '\n' ∉ lineBefore before ++ lineBehind behind := by
  rw [List.mem_append]
  rintro (front | back)
  · simpa using List.mem_rtakeWhile_imp front
  · simpa using List.mem_takeWhile_imp back

namespace Diagnostic

structure Registered (diagnostic : Diagnostic) : Prop where
  rule : ∃ rule ∈ Rule.all, diagnostic.code = rule.code ∧ diagnostic.message = rule.message
  snippet : '\n' ∉ diagnostic.snippet

theorem registered_of_mem {text : Text} {diagnostic : Diagnostic}
    (found : diagnostic ∈ lint text) : diagnostic.Registered := by
  obtain ⟨rule,member,offset,-,rfl⟩ := ((lint_spec text).2.2 diagnostic).mp found
  refine ⟨⟨rule,member,rfl,rfl⟩,?_⟩
  intro feed
  exact feed_notMem_line _ _ ((trimBy_isInfix isBlank _).subset feed)

def headLine (diagnostic : Diagnostic) (path : Text) : Text :=
  diagnostic.place path ++ ": ".toList ++ diagnostic.code.name ++ ' ' :: diagnostic.message

def formatLines (diagnostic : Diagnostic) (path : Text) : List Text :=
  [diagnostic.headLine path,"    ".toList ++ diagnostic.snippet]

theorem format_eq (diagnostic : Diagnostic) (path : Option Text) : diagnostic.format path =
    diagnostic.headLine (path.getD []) ++ '\n' :: ("    ".toList ++ diagnostic.snippet) := by
  have indent : "\n    ".toList = '\n' :: "    ".toList := by decide +kernel
  unfold format headLine
  rw [indent]
  simp only [List.append_assoc,List.cons_append]

variable {diagnostic other : Diagnostic}

theorem eq_of_fields (code : diagnostic.code = other.code)
    (message : diagnostic.message = other.message) (line : diagnostic.line = other.line)
    (column : diagnostic.column = other.column) (snippet : diagnostic.snippet = other.snippet) :
    diagnostic = other := by
  cases diagnostic
  cases other
  simp_all

theorem colon_notMem_ofNat (n : Nat) : ':' ∉ Decimal.ofNat n :=
  Decimal.notMem_ofNat (by decide) n

/-- What stands in front of the last colon of a place: the line, and a path if there is one. -/
def linePlace (line : Nat) (path : Text) : Text :=
  if path.isEmpty then Decimal.ofNat line else path ++ ':' :: Decimal.ofNat line

theorem place_eq (diagnostic : Diagnostic) (path : Text) : diagnostic.place path =
    linePlace diagnostic.line path ++ ':' :: Decimal.ofNat diagnostic.column := by
  unfold place linePlace
  split <;> simp

theorem linePlace_injective {line otherLine : Nat} {path otherPath : Text}
    (same : linePlace line path = linePlace otherLine otherPath) :
    line = otherLine ∧ path = otherPath := by
  unfold linePlace at same
  have clear := colon_notMem_ofNat line
  have otherClear := colon_notMem_ofNat otherLine
  split at same
  · next empty =>
    split at same
    · next otherEmpty =>
      rw [List.isEmpty_iff] at empty otherEmpty
      exact ⟨Decimal.ofNat_injective same,by rw [empty,otherEmpty]⟩
    · rw [same] at clear
      exact absurd (by simp) clear
  · split at same
    · rw [← same] at otherClear
      exact absurd (by simp) otherClear
    · obtain ⟨paths,lines⟩ := cut_last same clear otherClear
      exact ⟨Decimal.ofNat_injective lines,paths⟩

theorem place_injective {path otherPath : Text}
    (same : diagnostic.place path = other.place otherPath) :
    diagnostic.line = other.line ∧ diagnostic.column = other.column ∧ path = otherPath := by
  rw [place_eq,place_eq] at same
  obtain ⟨lines,columns⟩ := cut_last same (colon_notMem_ofNat _) (colon_notMem_ofNat _)
  obtain ⟨line,path⟩ := linePlace_injective lines
  exact ⟨line,Decimal.ofNat_injective columns,path⟩

theorem headLine_injective (registered : diagnostic.Registered) (otherRegistered : other.Registered)
    {path otherPath : Text} (same : diagnostic.headLine path = other.headLine otherPath) :
    diagnostic.code = other.code ∧ diagnostic.message = other.message ∧
      diagnostic.line = other.line ∧ diagnostic.column = other.column ∧ path = otherPath := by
  obtain ⟨rule,member,code,message⟩ := registered.rule
  obtain ⟨otherRule,otherMember,otherCode,otherMessage⟩ := otherRegistered.rule
  have ends : rule.message <:+ other.headLine otherPath := by
    rw [← same,← message]
    exact (List.suffix_cons _ _).trans (List.suffix_append _ _)
  have otherEnds : otherRule.message <:+ other.headLine otherPath := by
    rw [← otherMessage]
    exact (List.suffix_cons _ _).trans (List.suffix_append _ _)
  have codes : rule.code = otherRule.code := by
    rcases List.suffix_or_suffix_of_suffix ends otherEnds with inner | inner
    · exact (Rule.messages_apart _ member).2 _ otherMember inner
    · exact ((Rule.messages_apart _ otherMember).2 _ member inner).symm
  obtain rfl := Rule.eq_of_code member otherMember codes
  have sameCode := code.trans otherCode.symm
  have sameMessage := message.trans otherMessage.symm
  unfold headLine at same
  rw [sameCode,sameMessage] at same
  have places := List.append_cancel_right (List.append_cancel_right (List.append_cancel_right same))
  exact ⟨sameCode,sameMessage,place_injective places⟩

theorem formatLines_injective (registered : diagnostic.Registered)
    (otherRegistered : other.Registered) {path otherPath : Text}
    (same : diagnostic.formatLines path = other.formatLines otherPath) :
    diagnostic = other ∧ path = otherPath := by
  obtain ⟨headLines,rest⟩ := List.cons.inj same
  have snippets := List.append_cancel_left (List.cons.inj rest).1
  obtain ⟨code,message,line,column,paths⟩ :=
    headLine_injective registered otherRegistered headLines
  exact ⟨eq_of_fields code message line column snippets,paths⟩

theorem Registered.feed_notMem_indented (registered : diagnostic.Registered) :
    '\n' ∉ "    ".toList ++ diagnostic.snippet := by
  rw [List.mem_append]
  rintro (blank | snippet)
  · exact absurd blank (by decide)
  · exact registered.snippet snippet

theorem Registered.feed_notMem_headLine (registered : diagnostic.Registered) {path : Text}
    (clear : '\n' ∉ path) : '\n' ∉ diagnostic.headLine path := by
  obtain ⟨rule,member,-,message⟩ := registered.rule
  have numeral (n : Nat) : '\n' ∉ Decimal.ofNat n := Decimal.notMem_ofNat (by decide) n
  have place : '\n' ∉ diagnostic.place path := by
    unfold Diagnostic.place
    split <;> simp [clear,numeral]
  unfold headLine
  rw [message]
  simp [place,diagnostic.code.feed_notMem_name,(Rule.messages_apart _ member).1]

theorem Registered.feed_notMem_formatLines (registered : diagnostic.Registered) {path : Text}
    (clear : '\n' ∉ path) : ∀ line ∈ diagnostic.formatLines path, '\n' ∉ line := by
  intro line member
  rcases List.mem_pair.mp member with rfl | rfl
  · exact registered.feed_notMem_headLine clear
  · exact registered.feed_notMem_indented

/-- A printed finding tells the finding and the path. -/
theorem format_injective (registered : diagnostic.Registered) (otherRegistered : other.Registered)
    {path otherPath : Option Text} (same : diagnostic.format path = other.format otherPath) :
    diagnostic = other ∧ path.getD [] = otherPath.getD [] := by
  rw [format_eq,format_eq] at same
  obtain ⟨headLines,snippets⟩ := cut_last same registered.feed_notMem_indented
    otherRegistered.feed_notMem_indented
  apply formatLines_injective registered otherRegistered
  unfold formatLines
  rw [headLines,snippets]

def allLines (pairs : List (Text × Diagnostic)) : List Text :=
  pairs.flatMap fun pair => pair.2.formatLines pair.1

theorem length_allLines (pairs : List (Text × Diagnostic)) :
    (allLines pairs).length = 2 * pairs.length := by
  induction pairs with
  | nil => rfl
  | cons pair pairs ih =>
    simp only [allLines,List.flatMap_cons,List.length_append,List.length_cons] at ih ⊢
    rw [ih]
    simp only [formatLines,List.length_cons,List.length_nil]
    omega

theorem allLines_injective {pairs others : List (Text × Diagnostic)}
    (registered : ∀ pair ∈ pairs, pair.2.Registered)
    (otherRegistered : ∀ pair ∈ others, pair.2.Registered)
    (same : allLines pairs = allLines others) : pairs = others := by
  induction pairs generalizing others with
  | nil =>
    cases others with
    | nil => rfl
    | cons other others => cases same
  | cons pair pairs ih =>
    cases others with
    | nil => cases same
    | cons other others =>
      obtain ⟨firsts,rests⟩ := List.append_inj same rfl
      obtain ⟨diagnostics,paths⟩ := formatLines_injective (registered pair List.mem_cons_self)
        (otherRegistered other List.mem_cons_self) firsts
      rw [ih (fun pair member => registered pair (List.mem_cons_of_mem _ member))
        (fun pair member => otherRegistered pair (List.mem_cons_of_mem _ member)) rests,
        Prod.ext paths diagnostics]

end Diagnostic
end SchemaLint
