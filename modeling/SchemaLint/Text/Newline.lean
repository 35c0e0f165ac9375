import SchemaLint.Text.Blank

/-! Line ends as text files have them. Read as text, a file's carriage returns, each with the line
feed that may follow it, are line feeds.
-/
namespace SchemaLint.Text

def universalNewlinesFrom : Text → Text
  | [] => []
  | '\r' :: '\n' :: rest => '\n' :: universalNewlinesFrom rest
  | c :: rest => (if c = '\r' then '\n' else c) :: universalNewlinesFrom rest

def universalNewlinesOnto (out : Text) : Text → Text
  | [] => out.reverse
  | '\r' :: '\n' :: rest => universalNewlinesOnto ('\n' :: out) rest
  | c :: rest => universalNewlinesOnto ((if c = '\r' then '\n' else c) :: out) rest

theorem universalNewlinesOnto_eq (out text : Text) :
    universalNewlinesOnto out text = out.reverse ++ universalNewlinesFrom text := by
  fun_induction universalNewlinesOnto out text <;> simp_all [universalNewlinesFrom]

def universalNewlines (text : Text) : Text :=
  universalNewlinesOnto [] text

theorem universalNewlines_eq (text : Text) :
    universalNewlines text = universalNewlinesFrom text := by
  simp [universalNewlines,universalNewlinesOnto_eq]

end SchemaLint.Text
