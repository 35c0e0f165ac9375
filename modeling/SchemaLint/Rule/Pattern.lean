import SchemaLint.Rule.Phrase

/-! Patterns and their occurrences in a text. Occurrences are read from left to right; each takes the
leftmost start behind the one before it, and none overlap. A span reaches from its opening phrase to
the end of the first closing phrase behind it, across anything in between.
-/
namespace SchemaLint

inductive Pattern where
  | anyOf (phrases : List Phrase)
  | span (opening closing : Phrase)
  deriving Repr

structure Span where
  start : Nat
  stop : Nat
  deriving DecidableEq, Repr

namespace Pattern

def closing? : Pattern → Option Phrase
  | anyOf _ => none
  | span _ closing => some closing

/-- The length of the occurrence at the start of a text that no word reaches into. -/
def length? : Pattern → Text → Option Nat
  | anyOf phrases, text => phrases.findSome? (·.length? text)
  | span opening closing, text =>
    match opening.length? text with
    | none => none
    | some n => closing.firstEnd? true n (text.drop n)

/-- The occurrences in the text that starts at offset `pos`, where `inWord` says whether the
character before it belongs to a word and the first `skip` characters are taken already. -/
def spansFrom (pattern : Pattern) (inWord : Bool) (pos skip : Nat) (found : List Span) :
    Text → List Span
  | [] => found.reverse
  | c :: rest =>
    match skip with
    | skip + 1 => spansFrom pattern (Text.isWord c) (pos + 1) skip found rest
    | 0 =>
      match if inWord then none else pattern.length? (c :: rest) with
      | some n =>
        spansFrom pattern (Text.isWord c) (pos + 1) (n - 1) (⟨pos,pos + n⟩ :: found) rest
      | none => spansFrom pattern (Text.isWord c) (pos + 1) 0 found rest

def spans (pattern : Pattern) (text : Text) : List Span :=
  pattern.spansFrom false 0 0 [] text

/-- The end of the part of a text that occurrences can lie in. A pattern with a closing phrase has
none behind the last closing phrase, so nothing is searched there. -/
def reach (pattern : Pattern) (text : Text) : Nat :=
  match pattern.closing? with
  | none => text.length
  | some phrase => (((anyOf [phrase]).spans text).getLast?.map Span.stop).getD 0

/-- The occurrences in the part of the text within reach, which is read as if it ended there. -/
def spansInReach (pattern : Pattern) (text : Text) : List Span :=
  pattern.spans (text.take (pattern.reach text))

end Pattern
end SchemaLint
