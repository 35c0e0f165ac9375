import SchemaLint.Rule.Pattern
import SchemaLint.Proofs.Rule.Words

/-! Regular expressions as a backtracking search reads them. The matches of an expression from an offset
on are told by their ends, in the order in which they are tried, and the first one counts. A search
goes from left to right and on behind each match. Only single characters are repeated, since no more is
needed here.
-/
namespace SchemaLint
open Text

inductive Regex where
  | empty
  | one (accepts : Char → Bool)
  | wordEdge
  | textEnd
  | seq (first second : Regex)
  | either (first second : Regex)
  | greedy (accepts : Char → Bool)
  | lazy (accepts : Char → Bool)

namespace Regex

def runAt (accepts : Char → Bool) (text : Text) (start : Nat) : Nat :=
  ((text.drop start).takeWhile accepts).length

def ends : Regex → Text → Nat → List Nat
  | empty, _, start => [start]
  | one accepts, text, start => if text[start]?.any accepts then [start + 1] else []
  | wordEdge, text, start =>
    if endsInWord (text.take start) = startsInWord (text.drop start) then [] else [start]
  | textEnd, text, start => if text.length ≤ start then [start] else []
  | seq first second, text, start => (first.ends text start).flatMap (second.ends text)
  | either first second, text, start => first.ends text start ++ second.ends text start
  | greedy accepts, text, start => (List.range' start (runAt accepts text start + 1)).reverse
  | lazy accepts, text, start => List.range' start (runAt accepts text start + 1)

def end? (regex : Regex) (text : Text) (start : Nat) : Option Nat :=
  (regex.ends text start).head?

/-- The matches at or behind a cursor, for an expression that has no empty ones. -/
def foundFrom (regex : Regex) (text : Text) (cursor : Nat) : List Span :=
  if cursor < text.length then
    match regex.end? text cursor with
    | none => foundFrom regex text (cursor + 1)
    | some stop => ⟨cursor,stop⟩ :: foundFrom regex text (max stop (cursor + 1))
  else []
termination_by text.length - cursor

def found (regex : Regex) (text : Text) : List Span :=
  regex.foundFrom text 0

def replacedFrom (write : Text → Text) (text : Text) : (cursor : Nat) → List Span → Text
  | cursor, [] => text.drop cursor
  | cursor, span :: spans => text.extract cursor span.start ++
      write (text.extract span.start span.stop) ++ replacedFrom write text span.stop spans

def replaced (regex : Regex) (write : Text → Text) (text : Text) : Text :=
  replacedFrom write text 0 (regex.found text)

/-- A word in capitals, read without regard to case. -/
def word : Text → Regex
  | [] => empty
  | k :: word => seq (one fun c => c.toUpper = k) (Regex.word word)

def literal : Text → Regex
  | [] => empty
  | k :: rest => seq (one fun c => c = k) (literal rest)

def oneOf : List Regex → Regex
  | [] => one fun _ => false
  | first :: rest => either first (oneOf rest)

def gaps : Regex :=
  seq (one isGap) (greedy isGap)

variable {text : Text} {start : Nat}

@[simp] theorem ends_empty : empty.ends text start = [start] := rfl

@[simp] theorem ends_seq (first second : Regex) : (seq first second).ends text start =
    (first.ends text start).flatMap (second.ends text) := rfl

@[simp] theorem ends_either (first second : Regex) : (either first second).ends text start =
    first.ends text start ++ second.ends text start := rfl

theorem end?_seq (first second : Regex) : (seq first second).end? text start =
    (first.ends text start).findSome? (second.end? text) := by
  unfold end?
  rw [ends_seq,List.head?_flatMap]

theorem end?_either (first second : Regex) : (either first second).end? text start =
    (first.end? text start).or (second.end? text start) := by
  unfold end?
  rw [ends_either,List.head?_append]

theorem ends_oneOf (regexes : List Regex) : (oneOf regexes).ends text start =
    regexes.flatMap fun regex => regex.ends text start := by
  induction regexes with
  | nil => cases text[start]? <;> simp [oneOf,ends]
  | cons first rest ih => rw [oneOf,ends_either,ih,List.flatMap_cons]

theorem getElem?_of_drop {c : Char} {rest : Text} (shape : text.drop start = c :: rest) :
    text[start]? = some c ∧ text.drop (start + 1) = rest := by
  refine ⟨?_,?_⟩
  · rw [← Nat.add_zero start,← List.getElem?_drop,shape]
    rfl
  · rw [← List.drop_drop,shape]
    rfl

theorem ends_one_cons {accepts : Char → Bool} {c : Char} {rest : Text}
    (shape : text.drop start = c :: rest) :
    (one accepts).ends text start = if accepts c then [start + 1] else [] := by
  rw [ends,(getElem?_of_drop shape).1]
  rfl

theorem ends_one_nil {accepts : Char → Bool} (shape : text.drop start = []) :
    (one accepts).ends text start = [] := by
  rw [List.drop_eq_nil_iff] at shape
  rw [ends,List.getElem?_eq_none shape]
  rfl

/-- A word matches in one way, where what is left begins with its letters. -/
theorem ends_word (letters : Text) : (word letters).ends text start =
    ((Phrase.afterWord? letters (text.drop start)).map fun _ => start + letters.length).toList := by
  induction letters generalizing start with
  | nil => rfl
  | cons k letters ih =>
    rw [word,ends_seq]
    cases shape : text.drop start with
    | nil =>
      rw [ends_one_nil shape]
      rfl
    | cons c rest =>
      rw [ends_one_cons shape,Phrase.afterWord?]
      simp only [decide_eq_true_eq]
      split
      · rw [List.flatMap_singleton,ih,(getElem?_of_drop shape).2,List.length_cons]
        simp only [Nat.add_assoc,Nat.add_comm 1]
      · rfl

theorem ends_literal (letters : Text) : (literal letters).ends text start =
    if letters <+: text.drop start then [start + letters.length] else [] := by
  induction letters generalizing start with
  | nil => rfl
  | cons k letters ih =>
    rw [literal,ends_seq]
    cases shape : text.drop start with
    | nil =>
      rw [ends_one_nil shape]
      rfl
    | cons c rest =>
      rw [ends_one_cons shape]
      simp only [decide_eq_true_eq,List.cons_prefix_cons]
      by_cases same : c = k
      · rw [if_pos same,List.flatMap_singleton,ih,(getElem?_of_drop shape).2,List.length_cons]
        simp only [same,true_and,Nat.add_assoc,Nat.add_comm 1]
      · rw [if_neg same,if_neg fun found => same found.1.symm]
        rfl

theorem ends_greedy {accepts : Char → Bool} {run rest : Text} (shape : text.drop start = run ++ rest)
    (inside : ∀ c ∈ run, accepts c = true) (stop : Stops accepts rest) :
    (greedy accepts).ends text start =
      (start + run.length) :: (List.range' start run.length).reverse := by
  rw [ends,runAt,shape,takeWhile_run inside stop,List.range'_concat,List.reverse_append,Nat.one_mul]
  rfl

theorem ends_lazy {accepts : Char → Bool} {run rest : Text} (shape : text.drop start = run ++ rest)
    (inside : ∀ c ∈ run, accepts c = true) (stop : Stops accepts rest) :
    (lazy accepts).ends text start = List.range' start (run.length + 1) := by
  rw [ends,runAt,shape,takeWhile_run inside stop]

theorem end?_lazy {accepts : Char → Bool} (all : ∀ c, accepts c = true) (regex : Regex)
    (text : Text) (start : Nat) : (seq (lazy accepts) regex).end? text start =
      (List.range' start ((text.drop start).length + 1)).findSome? (regex.end? text) := by
  rw [end?_seq,ends_lazy (List.append_nil _).symm (fun c _ => all c) stops_nil]

theorem findSome?_range' {found : Nat → Option Nat} {inside stop : Nat} (n : Nat)
    (none : ∀ offset, start ≤ offset → offset < start + inside → found offset = none)
    (first : found (start + inside) = some stop) (bound : inside < n) :
    (List.range' start n).findSome? found = some stop := by
  obtain ⟨m,rfl⟩ := Nat.exists_eq_add_of_lt bound
  rw [Nat.add_assoc,← List.range'_append_1,List.findSome?_append,List.range'_succ,
    List.findSome?_cons,first]
  have nothing : (List.range' start inside).findSome? found = .none := by
    rw [List.findSome?_eq_none_iff]
    intro offset member
    rw [List.mem_range'_1] at member
    exact none offset member.1 member.2
  rw [nothing]
  rfl

/-- What follows gaps matches only behind all of them, if it matches at none. -/
theorem ends_gaps_seq {regex : Regex} (clear : ∀ start c rest, text.drop start = c :: rest →
    isGap c = true → regex.ends text start = []) {gap rest : Text}
    (shape : text.drop start = gap ++ rest) (gaps : ∀ c ∈ gap, isGap c = true)
    (stop : Stops isGap rest) : (seq Regex.gaps regex).ends text start =
      if gap = [] then [] else regex.ends text (start + gap.length) := by
  rw [ends_seq,Regex.gaps,ends_seq]
  cases gap with
  | nil =>
    have nothing : (one isGap).ends text start = [] := by
      cases rest with
      | nil => exact ends_one_nil shape
      | cons c rest => rw [ends_one_cons shape,if_neg (by simp [stops_cons.mp stop])]
    rw [nothing]
    rfl
  | cons c gap =>
    have behind : text.drop (start + 1) = gap ++ rest := (getElem?_of_drop shape).2
    rw [ends_one_cons shape,if_pos (gaps c (by simp)),List.flatMap_singleton,
      ends_greedy behind (fun d member => gaps d (by simp [member])) stop,List.flatMap_cons,
      if_neg (by simp),List.length_cons,Nat.add_right_comm]
    have inner : (List.range' (start + 1) gap.length).reverse.flatMap (regex.ends text) = [] := by
      rw [List.flatMap_eq_nil_iff]
      intro offset member
      rw [List.mem_reverse,List.mem_range'_1] at member
      obtain ⟨i,rfl⟩ := Nat.exists_eq_add_of_le member.1
      have inside : i < gap.length := by omega
      have here : text.drop (start + 1 + i) = gap[i] :: (gap.drop (i + 1) ++ rest) := by
        rw [← List.drop_drop,behind,List.drop_append_of_le_length inside.le,
          List.drop_eq_getElem_cons inside,List.cons_append]
      exact clear _ _ _ here (gaps _ (by simp))
    rw [inner,List.append_nil]
    rfl

section Search
variable {regex : Regex} {cursor : Nat}

theorem foundFrom_beyond (beyond : text.length ≤ cursor) : regex.foundFrom text cursor = [] := by
  rw [foundFrom,if_neg (by omega)]

theorem foundFrom_missing (missing : regex.end? text cursor = none) :
    regex.foundFrom text cursor = regex.foundFrom text (cursor + 1) := by
  rcases Nat.lt_or_ge cursor text.length with inside | beyond
  · rw [foundFrom,if_pos inside,missing]
  · rw [foundFrom_beyond beyond,foundFrom_beyond (by omega)]

theorem foundFrom_match {stop : Nat} (matched : regex.end? text cursor = some stop)
    (behind : cursor < stop) (inside : cursor < text.length) :
    regex.foundFrom text cursor = ⟨cursor,stop⟩ :: regex.foundFrom text stop := by
  rw [foundFrom,if_pos inside,matched]
  dsimp only
  rw [Nat.max_eq_left (by omega)]

end Search

end Regex
end SchemaLint
