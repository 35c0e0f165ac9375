import SchemaLint.Text.Blank
import Mathlib.Data.List.TakeWhile

/-! The run of characters of a class that a text starts with, and what stands behind it.
-/
namespace SchemaLint.Text
variable {inClass : Char → Bool}

def Stops (inClass : Char → Bool) (text : Text) : Prop :=
  ∀ c ∈ text.head?, inClass c = false

theorem stops_nil : Stops inClass [] := by
  intro c head
  cases head

theorem stops_cons {c : Char} {text : Text} : Stops inClass (c :: text) ↔ inClass c = false := by
  simp [Stops]

theorem stops_take {text : Text} (stop : Stops inClass text) (n : Nat) :
    Stops inClass (text.take n) := by
  cases n with
  | zero => exact stops_nil
  | succ n =>
    cases text with
    | nil => exact stops_nil
    | cons c text => exact stops_cons.mpr (stops_cons.mp stop)

theorem stops_append {text behind : Text} (stop : Stops inClass text)
    (stopBehind : Stops inClass behind) : Stops inClass (text ++ behind) := by
  cases text with
  | nil => exact stopBehind
  | cons c text => exact stops_cons.mpr (stops_cons.mp stop)

theorem stops_dropWhile (text : Text) : Stops inClass (text.dropWhile inClass) := by
  intro c head
  have stop := List.head?_dropWhile_not inClass text
  rw [Option.mem_def.mp head] at stop
  exact stop

theorem takeWhile_run {run rest : Text} (inside : ∀ c ∈ run, inClass c = true)
    (stop : Stops inClass rest) : (run ++ rest).takeWhile inClass = run := by
  rw [List.takeWhile_append_of_pos inside]
  cases rest with
  | nil => simp
  | cons c rest => simp [stops_cons.mp stop]

theorem dropWhile_run {run rest : Text} (inside : ∀ c ∈ run, inClass c = true)
    (stop : Stops inClass rest) : (run ++ rest).dropWhile inClass = rest := by
  rw [List.dropWhile_append_of_pos inside]
  cases rest with
  | nil => simp
  | cons c rest => simp [stops_cons.mp stop]

theorem exists_run (inClass : Char → Bool) (text : Text) :
    ∃ run rest, text = run ++ rest ∧ (∀ c ∈ run, inClass c = true) ∧ Stops inClass rest :=
  ⟨text.takeWhile inClass,text.dropWhile inClass,List.takeWhile_append_dropWhile.symm,
    fun _ inside => List.mem_takeWhile_imp inside,stops_dropWhile text⟩

end SchemaLint.Text
