import SchemaLint.Text.Word

/-! Phrases: words that follow one another with nothing but gaps between them. A phrase occurs where
its words stand as whole words, in any ASCII case.
-/
namespace SchemaLint

/-- The words of a phrase, in upper case. -/
abbrev Phrase := List Text

namespace Phrase

/-- What stands behind `word` in a text that starts with it, whatever the case of its letters. -/
def afterWord? : Text → Text → Option Text
  | [], text => some text
  | _ :: _, [] => none
  | k :: word, c :: text => if c.toUpper = k then afterWord? word text else none

/-- The length of the phrase at the start of a text, if it stands there and ends at a word's end. -/
def length? : Phrase → Text → Option Nat
  | [], _ => none
  | [word], text =>
    match afterWord? word text with
    | none => none
    | some rest => if Text.startsInWord rest then none else some word.length
  | word :: next :: words, text =>
    match afterWord? word text with
    | none => none
    | some rest =>
      match rest.takeWhile Text.isGap with
      | [] => none
      | gap =>
        match length? (next :: words) (rest.dropWhile Text.isGap) with
        | none => none
        | some n => some (word.length + gap.length + n)

/-- The end of the first occurrence at or behind offset `pos`; `inWord` says whether the character
before the text belongs to a word. -/
def firstEnd? (phrase : Phrase) : (inWord : Bool) → (pos : Nat) → Text → Option Nat
  | _, _, [] => none
  | inWord, pos, c :: rest =>
    match if inWord then none else length? phrase (c :: rest) with
    | some n => some (pos + n)
    | none => firstEnd? phrase (Text.isWord c) (pos + 1) rest

end Phrase
end SchemaLint
