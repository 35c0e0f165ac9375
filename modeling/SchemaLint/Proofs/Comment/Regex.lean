import SchemaLint.Proofs.Regex
import SchemaLint.Proofs.Comment.Segmentation

/-! Comments as the matches of a regular expression. Neutralising a text writes spaces in place of each
of them.
-/
namespace SchemaLint.Comment
open Text Regex

/-- A line comment, or a block comment that is as short as it can be, if need be up to the end. -/
def regex : Regex :=
  either (seq (literal ['-','-']) (greedy fun c => c ≠ '\n'))
    (seq (literal ['/','*'])
      (seq (lazy fun _ => true) (either (literal ['*','/']) textEnd)))

variable {text : Text} {start : Nat}

theorem end?_regex : regex.end? text start =
    (((literal ['-','-']).ends text start).findSome?
        ((greedy fun c => c ≠ '\n').end? text)).or
      (((literal ['/','*']).ends text start).findSome?
        ((seq (lazy fun _ => true) (either (literal ['*','/']) textEnd)).end? text)) := by
  rw [regex,end?_either,end?_seq,end?_seq]

theorem end?_plain (plain : ¬ Opens (text.drop start)) : regex.end? text start = none := by
  unfold Opens at plain
  rw [not_or] at plain
  rw [end?_regex,ends_literal,ends_literal,if_neg plain.1,if_neg plain.2]
  rfl

def shuts (text : Text) (start : Nat) : Option Nat :=
  (either (literal ['*','/']) textEnd).end? text start

theorem shuts_eq : shuts text start =
    if ['*','/'] <+: text.drop start then some (start + 2)
    else if text.length ≤ start then some start else none := by
  unfold shuts
  rw [end?_either,end?,end?,ends_literal,ends]
  split
  · rfl
  · split <;> rfl

theorem end?_inLine {body rest : Text} (shape : text.drop start = body ++ rest)
    (inLine : '\n' ∉ body) (stop : ∀ c ∈ rest.head?, c = '\n') :
    (greedy fun c => c ≠ '\n').end? text start = some (start + body.length) := by
  have inside : ∀ c ∈ body, decide (c ≠ '\n') = true := by
    intro c member
    rw [decide_eq_true_eq]
    rintro rfl
    exact inLine member
  have stops : Stops (fun c => decide (c ≠ '\n')) rest := by
    intro c head
    simp [stop c head]
  rw [end?,ends_greedy shape inside stops]
  rfl

theorem end?_block {body rest : Text} (shape : text.drop start = body ++ rest)
    (inBlock : ∀ i < body.length, ¬ ['*','/'] <+: (body ++ rest).drop i) {stop : Nat}
    (shut : shuts text (start + body.length) = some stop) :
    (seq (lazy fun _ => true) (either (literal ['*','/']) textEnd)).end? text start = some stop := by
  rw [end?_lazy fun _ => rfl]
  refine findSome?_range' _ ?_ shut ?_
  · intro offset behind before
    obtain ⟨i,rfl⟩ := Nat.exists_eq_add_of_le behind
    have inside : i < body.length := by omega
    have size := congrArg List.length shape
    simp only [List.length_drop,List.length_append] at size
    change shuts text (start + i) = none
    rw [shuts_eq,← List.drop_drop,shape,if_neg (inBlock i inside),if_neg (by omega)]
  · rw [shape,List.length_append]
    omega

/-- Within the text of a block comment there is no closing delimiter before its own. -/
theorem not_closes_inside {body rest : Text} (first : ¬ ['*','/'] <:+: body ++ ['*']) {i : Nat}
    (inside : i < body.length) : ¬ ['*','/'] <+: (body ++ '*' :: '/' :: rest).drop i := by
  intro closes
  apply first
  have parts : (body ++ '*' :: '/' :: rest).drop i =
      (body ++ ['*']).drop i ++ '/' :: rest := by
    rw [← List.drop_append_of_le_length (by simp; omega)]
    simp
  rw [parts] at closes
  have early := List.prefix_of_prefix_length_le closes (List.prefix_append _ _) (by simp; omega)
  exact early.isInfix.trans (List.drop_suffix i _).isInfix

theorem end?_whole {comment rest : Text} (shape : text.drop start = comment ++ rest)
    (whole : Whole comment rest) : regex.end? text start = some (start + comment.length) := by
  have behind {first second : Char} {body rest : Text}
      (shape : text.drop start = first :: second :: body ++ rest) :
      text.drop (start + 2) = body ++ rest := by
    rw [← List.drop_drop,shape]
    rfl
  have size (first second : Char) (body : Text) :
      start + (first :: second :: body).length = start + 2 + body.length := by
    simp only [List.length_cons]
    omega
  rw [end?_regex,ends_literal,ends_literal,shape]
  cases whole with
  | @line body rest inLine stop =>
    have ends := end?_inLine (behind shape) inLine stop
    rw [if_pos (by simp),List.findSome?_singleton]
    change ((greedy _).end? text (start + 2)).or _ = _
    rw [ends,Option.some_or,size]
  | @closed body rest first =>
    rw [List.cons_append,List.cons_append,List.append_assoc] at shape
    have shut : shuts text (start + 2 + body.length) = some (start + 2 + body.length + 2) := by
      rw [shuts_eq,← List.drop_drop,behind shape,List.drop_left,if_pos (by simp)]
    have ends := end?_block (behind shape) (fun i inside => not_closes_inside first inside) shut
    rw [if_neg (by simp),if_pos (by simp),List.findSome?_nil,List.findSome?_singleton]
    change (end? _ text (start + 2)) = _
    rw [ends,size,List.length_append]
    rfl
  | @unclosed body never =>
    have shut : shuts text (start + 2 + body.length) = some (start + 2 + body.length) := by
      have size := congrArg List.length (behind shape)
      simp only [List.length_drop,List.length_append,List.length_nil] at size
      rw [shuts_eq,← List.drop_drop,behind shape,List.drop_left,if_neg (by simp),if_pos (by omega)]
    have unclosed : ∀ i < body.length, ¬ ['*','/'] <+: (body ++ []).drop i := by
      intro i _ closes
      rw [List.append_nil] at closes
      exact never (closes.isInfix.trans (List.drop_suffix i body).isInfix)
    have ends := end?_block (behind shape) unclosed shut
    rw [if_neg (by simp),if_pos (by simp),List.findSome?_nil,List.findSome?_singleton]
    change (end? _ text (start + 2)) = _
    rw [ends,size]

theorem Whole.length_pos {comment rest : Text} (whole : Whole comment rest) :
    0 < comment.length := by
  cases whole <;> simp

theorem foundFrom_plain {code rest : Text} (shape : text.drop start = code ++ rest)
    (plain : Plain code rest) :
    regex.foundFrom text start = regex.foundFrom text (start + code.length) := by
  induction code generalizing start with
  | nil => rfl
  | cons c code ih =>
    obtain ⟨first,plain⟩ := plain_cons.mp plain
    rw [foundFrom_missing (end?_plain (by rw [shape]; exact first)),
      ih (getElem?_of_drop shape).2 plain,List.length_cons,Nat.add_assoc,Nat.add_comm 1]

theorem replacedFrom_leftmost {code : Text} {comments : List (Text × Text)}
    (shape : text.drop start = code ++ Segmentation.joined comments)
    (leftmost : Segmentation.Leftmost code comments) :
    replacedFrom (fun comment => List.replicate comment.length ' ') text start
        (regex.foundFrom text start) = code ++ Segmentation.joinedBlank comments := by
  induction comments generalizing code start with
  | nil =>
    rw [foundFrom_plain shape leftmost,foundFrom_beyond]
    · exact shape
    · have size := congrArg List.length shape
      simp only [List.length_drop,List.length_append,Segmentation.joined_nil,List.length_nil] at size
      omega
  | cons head more ih =>
    obtain ⟨comment,next⟩ := head
    obtain ⟨plain,whole,leftmost⟩ := leftmost
    rw [Segmentation.joined_cons] at shape plain
    have there : text.drop (start + code.length) =
        comment ++ (next ++ Segmentation.joined more) := by
      rw [← List.drop_drop,shape,List.drop_left]
    have behind : text.drop (start + code.length + comment.length) =
        next ++ Segmentation.joined more := by
      rw [← List.drop_drop,there,List.drop_left]
    have nonempty := whole.length_pos
    have inside : start + code.length < text.length := by
      have size := congrArg List.length there
      simp only [List.length_drop,List.length_append] at size
      omega
    rw [foundFrom_plain shape plain,foundFrom_match (end?_whole there whole) (by omega) inside,
      replacedFrom,ih behind leftmost,Segmentation.joinedBlank_cons,List.extract_eq_take_drop,
      List.extract_eq_take_drop,shape,there,Nat.add_sub_cancel_left,Nat.add_sub_cancel_left,
      List.take_left,List.take_left,List.append_assoc]

/-- Neutralising is replacing each match by as many spaces. -/
theorem neutralize_eq_replaced (text : Text) :
    neutralize text = regex.replaced (fun comment => List.replicate comment.length ' ') text := by
  obtain ⟨cut,cuts⟩ := Segmentation.exists_cuts text
  rw [Segmentation.neutralize_of_cuts cuts]
  obtain ⟨rfl,leftmost⟩ := cuts
  exact (replacedFrom_leftmost rfl leftmost).symm

end SchemaLint.Comment
