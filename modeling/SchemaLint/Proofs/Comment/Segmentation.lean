import SchemaLint.Proofs.Comment.Region
import SchemaLint.Proofs.Text.Run
import Mathlib.Data.List.Infix

/-! The comments of a text as one way to cut it. No comment opens inside the code between them, and
every comment is as long as its kind makes it. A text has exactly one such cut, and a walk with one
character of lookahead blanks just its comments.
-/
namespace SchemaLint.Comment

/-- No comment opens at a character of `code`, which `rest` follows. -/
def Plain (code rest : Text) : Prop :=
  ∀ i < code.length, ¬ Opens ((code ++ rest).drop i)

/-- A comment in full, which `rest` follows: a line comment up to the end of its line, or a block
comment up to the first closing delimiter behind the opening one, or up to the end of the text. -/
inductive Whole : (comment rest : Text) → Prop
  | line {body rest} (inLine : '\n' ∉ body) (stop : ∀ c ∈ rest.head?, c = '\n') :
      Whole ('-' :: '-' :: body) rest
  | closed {body rest} (first : ¬ ['*','/'] <:+: body ++ ['*']) :
      Whole ('/' :: '*' :: (body ++ ['*','/'])) rest
  | unclosed {body} (never : ¬ ['*','/'] <:+: body) : Whole ('/' :: '*' :: body) []

/-- Code, and then comments, each with the code behind it. -/
structure Segmentation where
  code : Text
  comments : List (Text × Text)

namespace Segmentation

def joined (comments : List (Text × Text)) : Text :=
  comments.flatMap fun (comment,code) => comment ++ code

def joinedBlank (comments : List (Text × Text)) : Text :=
  comments.flatMap fun (comment,code) => List.replicate comment.length ' ' ++ code

def text (cut : Segmentation) : Text :=
  cut.code ++ joined cut.comments

def blanked (cut : Segmentation) : Text :=
  cut.code ++ joinedBlank cut.comments

/-- Whether the code is plain and the comments are whole where they stand. -/
def Leftmost : (code : Text) → (comments : List (Text × Text)) → Prop
  | code, [] => Plain code []
  | code, (comment,next) :: more =>
    Plain code (joined ((comment,next) :: more)) ∧ Whole comment (next ++ joined more) ∧
      Leftmost next more

def Cuts (cut : Segmentation) (text : Text) : Prop :=
  cut.text = text ∧ Leftmost cut.code cut.comments

@[simp] theorem joined_nil : joined [] = [] := rfl

@[simp] theorem joined_cons (comment code : Text) (more : List (Text × Text)) :
    joined ((comment,code) :: more) = comment ++ (code ++ joined more) := by
  simp [joined]

@[simp] theorem joinedBlank_cons (comment code : Text) (more : List (Text × Text)) :
    joinedBlank ((comment,code) :: more) =
      List.replicate comment.length ' ' ++ (code ++ joinedBlank more) := by
  simp [joinedBlank]

end Segmentation

theorem plain_nil (rest : Text) : Plain [] rest := by
  intro i inside
  simp at inside

theorem plain_cons {c : Char} {code rest : Text} :
    Plain (c :: code) rest ↔ ¬ Opens (c :: (code ++ rest)) ∧ Plain code rest := by
  constructor
  · intro plain
    refine ⟨plain 0 (by simp),?_⟩
    intro i inside
    exact plain (i + 1) (by simpa using inside)
  · rintro ⟨first,plain⟩ i inside
    cases i with
    | zero => exact first
    | succ i => exact plain i (by simpa using inside)

theorem Whole.opens {comment rest : Text} (whole : Whole comment rest) (behind : Text) :
    Opens (comment ++ behind) := by
  cases whole <;> simp [opens_cons]

theorem blankFrom_plain {code rest : Text} (plain : Plain code rest) :
    blankFrom .code (code ++ rest) = code ++ blankFrom .code rest := by
  induction code with
  | nil => rfl
  | cons c code ih =>
    obtain ⟨first,plain⟩ := plain_cons.mp plain
    rw [List.cons_append,blankFrom_code_cons first,ih plain]
    rfl

theorem blankFrom_inLine {body rest : Text} (inLine : '\n' ∉ body)
    (stop : ∀ c ∈ rest.head?, c = '\n') :
    blankFrom .line (body ++ rest) =
      List.replicate body.length ' ' ++ blankFrom .code rest := by
  induction body with
  | nil =>
    cases rest with
    | nil => rfl
    | cons c rest =>
      have feed : c = '\n' := stop c (by simp)
      subst feed
      have plain : ¬ Opens ('\n' :: rest) := by simp [opens_cons]
      simp [blankFrom,blankFrom_code_cons plain]
  | cons c body ih =>
    rw [List.mem_cons,not_or] at inLine
    rw [List.cons_append,blankFrom_line_cons (Ne.symm inLine.1),ih inLine.2]
    rfl

theorem blankFrom_closed {body : Text} (rest : Text) (first : ¬ ['*','/'] <:+: body ++ ['*']) :
    blankFrom .block (body ++ ['*','/'] ++ rest) =
      List.replicate (body.length + 2) ' ' ++ blankFrom .code rest := by
  induction body with
  | nil => rfl
  | cons c body ih =>
    rw [List.cons_append,List.infix_cons_iff,not_or] at first
    have inBlock : ¬ Closes (c :: (body ++ ['*','/'] ++ rest)) := by
      intro closes
      apply first.1
      cases body with
      | nil => simp_all [closes_cons]
      | cons d body => simp_all [closes_cons,List.cons_prefix_cons]
    rw [List.cons_append,List.cons_append,blankFrom_block_cons inBlock,ih first.2]
    rfl

theorem blankFrom_unclosed {body : Text} (never : ¬ ['*','/'] <:+: body) :
    blankFrom .block body = List.replicate body.length ' ' := by
  induction body with
  | nil => rfl
  | cons c body ih =>
    rw [List.infix_cons_iff,not_or] at never
    rw [blankFrom_block_cons never.1,ih never.2]
    rfl

theorem blankFrom_whole {comment rest : Text} (whole : Whole comment rest) :
    blankFrom .code (comment ++ rest) =
      List.replicate comment.length ' ' ++ blankFrom .code rest := by
  cases whole with
  | line inLine stop => simp [blankFrom,blankFrom_inLine inLine stop,List.replicate_succ]
  | closed first =>
    have walked := blankFrom_closed rest first
    simp_all [blankFrom,List.replicate_succ]
  | unclosed never => simp [blankFrom,blankFrom_unclosed never,List.replicate_succ]

theorem blankFrom_leftmost {code : Text} {comments : List (Text × Text)}
    (leftmost : Segmentation.Leftmost code comments) :
    blankFrom .code (code ++ Segmentation.joined comments) =
      code ++ Segmentation.joinedBlank comments := by
  induction comments generalizing code with
  | nil =>
    have plain : Plain code [] := leftmost
    change blankFrom .code (code ++ []) = code ++ []
    rw [blankFrom_plain plain]
    rfl
  | cons head more ih =>
    obtain ⟨comment,next⟩ := head
    obtain ⟨plain,whole,leftmost⟩ := leftmost
    rw [blankFrom_plain plain,Segmentation.joined_cons,blankFrom_whole whole,ih leftmost,
      Segmentation.joinedBlank_cons]

theorem exists_plain (text : Text) :
    ∃ code rest, text = code ++ rest ∧ Plain code rest ∧ (rest = [] ∨ Opens rest) := by
  induction text with
  | nil => exact ⟨[],[],rfl,plain_nil _,.inl rfl⟩
  | cons c text ih =>
    by_cases opens : Opens (c :: text)
    · exact ⟨[],c :: text,rfl,plain_nil _,.inr opens⟩
    · obtain ⟨code,rest,rfl,plain,stop⟩ := ih
      exact ⟨c :: code,rest,rfl,plain_cons.mpr ⟨opens,plain⟩,stop⟩

theorem exists_inLine (text : Text) :
    ∃ body rest, text = body ++ rest ∧ '\n' ∉ body ∧ ∀ c ∈ rest.head?, c = '\n' := by
  obtain ⟨body,rest,rfl,inside,stop⟩ := Text.exists_run (fun c => c ≠ '\n') text
  refine ⟨body,rest,rfl,?_,?_⟩
  · intro feed
    simpa using inside '\n' feed
  · intro c head
    simpa using stop c head

theorem exists_closed (text : Text) : ¬ ['*','/'] <:+: text ∨
    ∃ body rest, text = body ++ ['*','/'] ++ rest ∧ ¬ ['*','/'] <:+: body ++ ['*'] := by
  induction text with
  | nil => simp
  | cons c text ih =>
    by_cases closes : ['*','/'] <+: c :: text
    · obtain ⟨rest,equal⟩ := closes
      exact .inr ⟨[],rest,equal.symm,by decide⟩
    · rcases ih with never | ⟨body,rest,rfl,first⟩
      · exact .inl (by rw [List.infix_cons_iff,not_or]; exact ⟨closes,never⟩)
      · refine .inr ⟨c :: body,rest,rfl,?_⟩
        rw [List.cons_append,List.infix_cons_iff,not_or]
        refine ⟨?_,first⟩
        intro early
        apply closes
        have shape : body ++ ['*','/'] ++ rest = body ++ ['*'] ++ '/' :: rest := by simp
        rw [shape,← List.cons_append]
        exact early.trans (List.prefix_append _ _)

theorem exists_whole {text : Text} (opens : Opens text) :
    ∃ comment rest, text = comment ++ rest ∧ comment ≠ [] ∧ Whole comment rest := by
  rcases opens with ⟨behind,rfl⟩ | ⟨behind,rfl⟩
  · obtain ⟨body,rest,rfl,inLine,stop⟩ := exists_inLine behind
    exact ⟨'-' :: '-' :: body,rest,rfl,by simp,.line inLine stop⟩
  · rcases exists_closed behind with never | ⟨body,rest,rfl,first⟩
    · exact ⟨'/' :: '*' :: behind,[],by simp,by simp,.unclosed never⟩
    · exact ⟨'/' :: '*' :: (body ++ ['*','/']),rest,by simp,by simp,.closed first⟩

theorem Segmentation.exists_cuts (text : Text) : ∃ cut : Segmentation, cut.Cuts text := by
  induction size : text.length using Nat.strong_induction_on generalizing text with
  | _ n ih =>
    obtain ⟨code,rest,rfl,plain,rfl | opens⟩ := exists_plain text
    · exact ⟨⟨code,[]⟩,rfl,plain⟩
    · obtain ⟨comment,behind,rfl,nonempty,whole⟩ := exists_whole opens
      have positive := List.length_pos_iff.mpr nonempty
      have shorter : behind.length < n := by
        simp only [List.length_append] at size
        omega
      obtain ⟨⟨next,more⟩,rfl,leftmost⟩ := ih behind.length shorter behind rfl
      refine ⟨⟨code,(comment,next) :: more⟩,by simp [Segmentation.text],?_,whole,leftmost⟩
      simpa [Segmentation.text] using plain

theorem length_plain_le {code rest code' rest' : Text} (same : code ++ rest = code' ++ rest')
    (plain' : Plain code' rest') (stop : rest = [] ∨ Opens rest) : code'.length ≤ code.length := by
  by_contra longer
  rcases stop with rfl | opens
  · have lengths := congrArg List.length same
    simp only [List.length_append,List.length_nil] at lengths
    omega
  · apply plain' code.length (by omega)
    rw [← same,List.drop_left]
    exact opens

theorem length_inLine_le {body rest body' rest' : Text} (same : body ++ rest = body' ++ rest')
    (inLine' : '\n' ∉ body') (stop : ∀ c ∈ rest.head?, c = '\n') :
    body'.length ≤ body.length := by
  rcases List.append_eq_append_iff.mp same with ⟨tail,rfl,rfl⟩ | ⟨tail,rfl,rfl⟩
  · cases tail with
    | nil => simp
    | cons c tail =>
      have feed : c = '\n' := stop c (by simp)
      simp [feed] at inLine'
  · simp

theorem length_closed_le {body rest body' rest' : Text}
    (same : body ++ '*' :: '/' :: rest = body' ++ '*' :: '/' :: rest')
    (first' : ¬ ['*','/'] <:+: body' ++ ['*']) : body'.length ≤ body.length := by
  rcases List.append_eq_append_iff.mp same with ⟨tail,rfl,behind⟩ | ⟨tail,rfl,behind⟩
  · match tail, behind with
    | [], _ => simp
    | [c], behind => simp at behind
    | c :: d :: tail, behind =>
      simp only [List.cons_append,List.cons.injEq] at behind
      obtain ⟨rfl,rfl,-⟩ := behind
      exact absurd ⟨body,tail ++ ['*'],by simp⟩ first'
  · simp

theorem Whole.unique {comment rest comment' rest' : Text} (same : comment ++ rest = comment' ++ rest')
    (whole : Whole comment rest) (whole' : Whole comment' rest') : comment = comment' := by
  have equal (le : comment.length = comment'.length) : comment = comment' :=
    (List.append_inj same le).1
  cases whole with
  | line inLine stop =>
    cases whole' with
    | line inLine' stop' =>
      simp only [List.cons_append,List.cons.injEq,true_and] at same
      have upper := length_inLine_le same inLine' stop
      have lower := length_inLine_le same.symm inLine stop'
      apply equal
      simp only [List.length_cons]
      omega
    | closed first' => simp at same
    | unclosed never' => simp at same
  | closed first =>
    cases whole' with
    | line inLine' stop' => simp at same
    | closed first' =>
      simp only [List.cons_append,List.cons.injEq,true_and,List.append_assoc,
        List.nil_append] at same
      have upper := length_closed_le same first'
      have lower := length_closed_le same.symm first
      apply equal
      simp only [List.length_cons,List.length_append]
      omega
    | unclosed never' =>
      simp only [List.cons_append,List.cons.injEq,true_and,List.append_assoc,List.append_nil,
        List.nil_append] at same
      exact absurd ⟨_,_,by simpa using same⟩ never'
  | unclosed never =>
    cases whole' with
    | line inLine' stop' => simp at same
    | closed first' =>
      simp only [List.cons_append,List.cons.injEq,true_and,List.append_assoc,List.append_nil,
        List.nil_append] at same
      exact absurd ⟨_,_,by simpa using same.symm⟩ never
    | unclosed never' => simpa using same

theorem Segmentation.joined_stop {code : Text} {comments : List (Text × Text)}
    (leftmost : Leftmost code comments) : joined comments = [] ∨ Opens (joined comments) := by
  cases comments with
  | nil => exact .inl rfl
  | cons head more =>
    rw [joined_cons]
    exact .inr (leftmost.2.1.opens _)

theorem Segmentation.leftmost_plain {code : Text} {comments : List (Text × Text)}
    (leftmost : Leftmost code comments) : Plain code (joined comments) := by
  cases comments with
  | nil => exact leftmost
  | cons head more => exact leftmost.1

theorem Segmentation.leftmost_unique {code code' : Text} {comments comments' : List (Text × Text)}
    (same : code ++ joined comments = code' ++ joined comments')
    (leftmost : Leftmost code comments) (leftmost' : Leftmost code' comments') :
    code = code' ∧ comments = comments' := by
  induction comments generalizing code code' comments' with
  | nil =>
    have upper := length_plain_le same (leftmost_plain leftmost') (.inl rfl)
    have lower := length_plain_le same.symm (leftmost_plain leftmost) (joined_stop leftmost')
    obtain ⟨rfl,behind⟩ := List.append_inj same (by omega)
    cases comments' with
    | nil => exact ⟨rfl,rfl⟩
    | cons head more =>
      have opens := leftmost'.2.1.opens (head.2 ++ joined more)
      rw [← joined_cons,← behind] at opens
      exact absurd opens not_opens_nil
  | cons head more ih =>
    obtain ⟨comment,next⟩ := head
    have upper := length_plain_le same (leftmost_plain leftmost') (joined_stop leftmost)
    have lower := length_plain_le same.symm (leftmost_plain leftmost) (joined_stop leftmost')
    obtain ⟨rfl,behind⟩ := List.append_inj same (by omega)
    cases comments' with
    | nil =>
      have opens := leftmost.2.1.opens (next ++ joined more)
      rw [← joined_cons,behind] at opens
      exact absurd opens not_opens_nil
    | cons head' more' =>
      obtain ⟨comment',next'⟩ := head'
      rw [joined_cons,joined_cons] at behind
      have comments := Whole.unique behind leftmost.2.1 leftmost'.2.1
      subst comments
      obtain ⟨rfl,rfl⟩ := ih (List.append_cancel_left behind) leftmost.2.2 leftmost'.2.2
      exact ⟨rfl,rfl⟩

theorem Segmentation.neutralize_of_cuts {cut : Segmentation} {text : Text} (cuts : cut.Cuts text) :
    neutralize text = cut.blanked := by
  obtain ⟨rfl,leftmost⟩ := cuts
  rw [neutralize_eq]
  exact blankFrom_leftmost leftmost

namespace Machine

/-- What a walk does in a region at a character with another one behind it, if any: where it goes,
what it writes, and whether it takes the other one as well, as the second half of a delimiter. -/
def move : Region → Char → Option Char → Region × Char × Bool
  | .code, '-', some '-' => (.line,' ',true)
  | .code, '/', some '*' => (.block,' ',true)
  | .code, c, _ => (.code,c,false)
  | .line, '\n', _ => (.code,'\n',false)
  | .line, _, _ => (.line,' ',false)
  | .block, '*', some '/' => (.code,' ',true)
  | .block, _, _ => (.block,' ',false)

def run : Region → Text → Text
  | _, [] => []
  | region, [c] => [(move region c none).2.1]
  | region, c :: next :: rest =>
    match move region c (some next) with
    | (region,written,true) => written :: ' ' :: run region rest
    | (region,written,false) => written :: run region (next :: rest)

theorem run_eq (region : Region) (text : Text) : run region text = blankFrom region text := by
  fun_induction blankFrom region text with
  | case1 region => simp [run]
  | case2 rest ih => simp [run,move,ih]
  | case3 rest ih => simp [run,move,ih]
  | case4 c rest notLine notBlock ih => cases rest <;> simp_all [run,move]
  | case5 rest ih => cases rest <;> simp_all [run,move]
  | case6 c rest inLine ih => cases rest <;> simp_all [run,move]
  | case7 rest ih => simp [run,move,ih]
  | case8 c rest inBlock ih => cases rest <;> simp_all [run,move]

end Machine

/-- Every text is cut at its comments in exactly one way. Neutralising writes spaces for the comments
of that cut and keeps all else, and the walk with one character of lookahead does the same. -/
theorem neutralize_segmentation (text : Text) :
    (∃! cut : Segmentation, cut.Cuts text) ∧
      (∃ cut : Segmentation, cut.Cuts text ∧ neutralize text = cut.blanked) ∧
      (neutralize text).length = text.length ∧
      List.Forall₂ (fun c blanked => blanked = c ∨ blanked = ' ') text (neutralize text) ∧
      neutralize text = Machine.run .code text := by
  obtain ⟨cut,cuts⟩ := Segmentation.exists_cuts text
  refine ⟨⟨cut,cuts,?_⟩,⟨cut,cuts,Segmentation.neutralize_of_cuts cuts⟩,length_neutralize text,?_,?_⟩
  · intro other otherCuts
    obtain ⟨code,comments⟩ := Segmentation.leftmost_unique (otherCuts.1.trans cuts.1.symm)
      otherCuts.2 cuts.2
    cases other
    cases cut
    simp_all
  · rw [neutralize_eq]
    exact blankFrom_forall₂ .code text
  · rw [neutralize_eq,Machine.run_eq]

/-- The star of an opening delimiter does not close its comment, and hyphens inside are inert. -/
example : neutralize "a/*/--\n**/-b--/*\n".toList = "a         -b    \n".toList := by
  decide

end SchemaLint.Comment
