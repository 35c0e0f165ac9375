import SchemaLint.Text.Utf8
import Mathlib.Algebra.Group.Nat.Defs
import Mathlib.Tactic.SplitIfs

/-! Reading UTF-8 piece by piece. A byte of ASCII goes on with nothing, so what is broken in front of
it stays there and what stands behind it is read as if it stood alone; and what was written is read
back.
-/
namespace SchemaLint.Utf8

def leftOver : Option Pending → List Piece
  | none => []
  | some p => [.broken p.read.reverse]

def AboveAscii (pending : Option Pending) : Prop :=
  ∀ p ∈ pending, 0x7F < p.low

theorem begin_onto (out : List Piece) (byte : UInt8) :
    begin out byte =
      ((begin [] byte).1 ++ out,(begin [] byte).2) := by
  unfold begin
  dsimp only
  split_ifs <;> rfl

theorem step_onto (out : List Piece) (pending : Option Pending) (byte : UInt8) :
    step out pending byte =
      ((step [] pending byte).1 ++ out,(step [] pending byte).2) := by
  cases pending with
  | none => exact begin_onto out byte
  | some p =>
    unfold step
    dsimp only
    split
    · split <;> rfl
    · rw [begin_onto (_ :: out),begin_onto [_]]
      simp

theorem piecesFrom_onto (out : List Piece) (pending : Option Pending) (bytes : Bytes) :
    piecesFrom out pending bytes =
      out.reverse ++ piecesFrom [] pending bytes := by
  induction bytes generalizing out pending with
  | nil => cases pending <;> simp [piecesFrom]
  | cons byte bytes ih =>
    rw [piecesFrom,piecesFrom,step_onto out]
    dsimp only
    rw [ih (_ ++ out),ih (step [] pending byte).1]
    simp

theorem piecesFrom_nil (out : List Piece) (pending : Option Pending) :
    piecesFrom out pending [] = (leftOver pending ++ out).reverse := by
  cases pending <;> rfl

theorem begin_ascii (out : List Piece) {byte : UInt8} (ascii : byte.toNat ≤ 0x7F) :
    begin out byte = (.char (Char.ofNat byte.toNat) :: out,none) := by
  unfold begin
  rw [if_pos ascii]

theorem aboveAscii_begin (out : List Piece) (byte : UInt8) :
    AboveAscii (begin out byte).2 := by
  unfold AboveAscii begin
  dsimp only
  split_ifs <;> simp

theorem step_ascii (out : List Piece) {pending : Option Pending} (above : AboveAscii pending)
    {byte : UInt8} (ascii : byte.toNat ≤ 0x7F) : step out pending byte =
      (.char (Char.ofNat byte.toNat) :: (leftOver pending ++ out),none) := by
  cases pending with
  | none => exact begin_ascii out ascii
  | some p =>
    have bound := above p rfl
    unfold step
    dsimp only
    rw [if_neg (by simp; omega)]
    exact begin_ascii _ ascii

theorem aboveAscii_step (out : List Piece) (pending : Option Pending) (byte : UInt8) :
    AboveAscii (step out pending byte).2 := by
  cases pending with
  | none => exact aboveAscii_begin out byte
  | some p =>
    unfold step
    dsimp only
    split
    · split <;> simp [AboveAscii]
    · exact aboveAscii_begin _ byte

/-- A byte of ASCII parts what is read in front of it from what is read behind it. -/
theorem piecesFrom_append_ascii (out : List Piece) {pending : Option Pending}
    (above : AboveAscii pending) (front : Bytes) {byte : UInt8} (ascii : byte.toNat ≤ 0x7F)
    (back : Bytes) : piecesFrom out pending (front ++ byte :: back) =
      piecesFrom out pending front ++
        .char (Char.ofNat byte.toNat) :: pieces back := by
  induction front generalizing out pending with
  | nil =>
    rw [List.nil_append,piecesFrom,step_ascii out above ascii,piecesFrom_nil]
    dsimp only
    rw [piecesFrom_onto (_ :: _),pieces]
    simp
  | cons first front ih =>
    rw [List.cons_append,piecesFrom,piecesFrom]
    exact ih _ (aboveAscii_step out pending first)

theorem decode_append_feed (front back : Bytes) :
    decode (front ++ 0x0A :: back) = decode front ++ '\n' :: decode back := by
  unfold decode
  rw [pieces,piecesFrom_append_ascii [] (by simp [AboveAscii]) front (by decide) back,List.map_append]
  rfl

theorem toNat_toUInt8 {n : Nat} (small : n < 256) : n.toUInt8.toNat = n :=
  UInt8.toNat_ofNat_of_lt' small

theorem step_last (out : List Piece) {p : Pending} (last : p.more = 0) {byte : UInt8}
    (low : p.low ≤ byte.toNat) (high : byte.toNat ≤ p.high) : step out (some p) byte =
      (.char (Char.ofNat (p.value * 64 + (byte.toNat - 0x80))) :: out,none) := by
  unfold step
  dsimp only
  rw [if_pos (by simp [low,high]),last]

theorem step_more (out : List Piece) {p : Pending} {more : Nat} (owed : p.more = more + 1)
    {byte : UInt8} (low : p.low ≤ byte.toNat) (high : byte.toNat ≤ p.high) :
    step out (some p) byte =
      (out,some ⟨p.value * 64 + (byte.toNat - 0x80),0x80,0xBF,more,byte :: p.read⟩) := by
  unfold step
  dsimp only
  rw [if_pos (by simp [low,high]),owed]

/-- What is pending behind the first byte of a character: the bits of that byte, and bounds that let
the next byte of the character through. -/
structure Pending.Leads (p : Pending) (value next more : Nat) : Prop where
  value : p.value = value
  low : p.low ≤ next
  high : next ≤ p.high
  more : p.more = more

theorem begin_two (out : List Piece) {n : Nat} (lower : 0x7F < n) (upper : n ≤ 0x7FF) :
    ∃ p : Pending, begin out (0xC0 + n / 64).toUInt8 = (out,some p) ∧
      p.Leads (n / 64 ^ 1) (0x80 + n / 64 ^ 0 % 64) 0 := by
  have small : 0xC0 + n / 64 < 256 := by omega
  unfold begin
  dsimp only
  rw [toNat_toUInt8 small,if_neg (by omega),if_neg (by omega),if_pos (by omega)]
  refine ⟨_,rfl,?_,?_,?_,rfl⟩ <;> dsimp only <;> omega

theorem begin_three (out : List Piece) {n : Nat} (lower : 0x7FF < n) (upper : n ≤ 0xFFFF)
    (scalar : n < 0xD800 ∨ 0xDFFF < n) :
    ∃ p : Pending, begin out (0xE0 + n / 4096).toUInt8 = (out,some p) ∧
      p.Leads (n / 64 ^ 2) (0x80 + n / 64 ^ 1 % 64) 1 := by
  have small : 0xE0 + n / 4096 < 256 := by omega
  unfold begin
  dsimp only
  rw [toNat_toUInt8 small,if_neg (by omega),if_neg (by omega),if_neg (by omega)]
  -- Behind 0xE0 shorter characters are left out, and behind 0xED surrogates.
  by_cases first : 0xE0 + n / 4096 = 0xE0
  · rw [if_pos first]
    refine ⟨_,rfl,?_,?_,?_,rfl⟩ <;> dsimp only <;> omega
  · rw [if_neg first]
    by_cases surrogate : 0xE0 + n / 4096 = 0xED
    · rw [if_pos surrogate]
      refine ⟨_,rfl,?_,?_,?_,rfl⟩ <;> dsimp only <;> omega
    · rw [if_neg surrogate,if_pos (by omega)]
      refine ⟨_,rfl,?_,?_,?_,rfl⟩ <;> dsimp only <;> omega

theorem begin_four (out : List Piece) {n : Nat} (lower : 0xFFFF < n) (upper : n ≤ 0x10FFFF) :
    ∃ p : Pending, begin out (0xF0 + n / 262144).toUInt8 = (out,some p) ∧
      p.Leads (n / 64 ^ 3) (0x80 + n / 64 ^ 2 % 64) 2 := by
  have small : 0xF0 + n / 262144 < 256 := by omega
  unfold begin
  dsimp only
  rw [toNat_toUInt8 small,if_neg (by omega),if_neg (by omega),if_neg (by omega),if_neg (by omega),
    if_neg (by omega),if_neg (by omega)]
  -- Behind 0xF0 shorter characters are left out, and behind 0xF4 what is no code point.
  by_cases first : 0xF0 + n / 262144 = 0xF0
  · rw [if_pos first]
    refine ⟨_,rfl,?_,?_,?_,rfl⟩ <;> dsimp only <;> omega
  · rw [if_neg first]
    by_cases within : 0xF0 + n / 262144 ≤ 0xF3
    · rw [if_pos within]
      refine ⟨_,rfl,?_,?_,?_,rfl⟩ <;> dsimp only <;> omega
    · rw [if_neg within,if_pos (by omega)]
      refine ⟨_,rfl,?_,?_,?_,rfl⟩ <;> dsimp only <;> omega

/-- The bytes of a character behind the first one, so many and one more. Each carries six bits. -/
def behind (n : Nat) : Nat → Bytes
  | 0 => [(0x80 + n % 64).toUInt8]
  | more + 1 => (0x80 + n / 64 ^ (more + 1) % 64).toUInt8 :: behind n more

theorem toNat_behind (n : Nat) : (0x80 + n % 64).toUInt8.toNat = 0x80 + n % 64 :=
  toNat_toUInt8 (by omega)

/-- Every byte behind the first one adds its bits, and the last one ends the character. -/
theorem piecesFrom_behind (out : List Piece) (more : Nat) {n : Nat} {p : Pending}
    (leads : p.Leads (n / 64 ^ (more + 1)) (0x80 + n / 64 ^ more % 64) more) (rest : Bytes) :
    piecesFrom out (some p) (behind n more ++ rest) =
      piecesFrom (.char (Char.ofNat n) :: out) none rest := by
  induction more generalizing p with
  | zero =>
    have low := leads.low
    have high := leads.high
    rw [Nat.pow_zero,Nat.div_one,← toNat_behind] at low high
    rw [behind,List.singleton_append,piecesFrom,step_last out leads.more low high,toNat_behind,
      leads.value,Nat.zero_add,Nat.pow_one,Nat.add_sub_cancel_left,Nat.div_add_mod']
  | succ more ih =>
    have low := leads.low
    have high := leads.high
    rw [← toNat_behind] at low high
    have value : n / 64 ^ (more + 1 + 1) * 64 + n / 64 ^ (more + 1) % 64 = n / 64 ^ (more + 1) := by
      rw [Nat.pow_succ 64 (more + 1),← Nat.div_div_eq_div_mul,Nat.div_add_mod']
    rw [behind,List.cons_append,piecesFrom,step_more out leads.more low high,toNat_behind,
      leads.value,Nat.add_sub_cancel_left,value]
    refine ih ⟨rfl,?_,?_,rfl⟩ <;> dsimp only <;> omega

theorem piecesFrom_encodeChar (out : List Piece) (c : Char) (rest : Bytes) :
    piecesFrom out none (encodeChar c ++ rest) =
      piecesFrom (.char c :: out) none rest := by
  have valid : c.toNat.isValidChar := c.valid
  have scalar : c.toNat < 0xD800 ∨ 0xDFFF < c.toNat := by
    rcases valid with below | above
    · exact .inl below
    · exact .inr above.1
  have upper : c.toNat ≤ 0x10FFFF := by
    rcases valid with below | above <;> omega
  have known : Char.ofNat c.toNat = c := Char.ofNat_toNat c
  unfold encodeChar
  dsimp only
  split_ifs with one two three
  · have value : c.toNat.toUInt8.toNat = c.toNat := toNat_toUInt8 (by omega)
    rw [List.singleton_append,piecesFrom,step,begin_ascii out (by rw [value]; exact one),value,
      Char.ofNat_toNat]
  · obtain ⟨p,begins,leads⟩ := begin_two out (Nat.lt_of_not_le one) two
    rw [List.cons_append,piecesFrom,step,begins]
    exact (piecesFrom_behind out 0 leads rest).trans (by rw [known])
  · obtain ⟨p,begins,leads⟩ := begin_three out (Nat.lt_of_not_le two) three scalar
    rw [List.cons_append,piecesFrom,step,begins]
    exact (piecesFrom_behind out 1 leads rest).trans (by rw [known])
  · obtain ⟨p,begins,leads⟩ := begin_four out (Nat.lt_of_not_le three) upper
    rw [List.cons_append,piecesFrom,step,begins]
    exact (piecesFrom_behind out 2 leads rest).trans (by rw [known])

theorem piecesFrom_encode (out : List Piece) (text : Text) :
    piecesFrom out none (encode text) = out.reverse ++ text.map .char := by
  induction text generalizing out with
  | nil => simp [encode,piecesFrom]
  | cons c text ih =>
    have parts : encode (c :: text) = encodeChar c ++ encode text := rfl
    rw [parts,piecesFrom_encodeChar,ih]
    simp

theorem decode_encode (text : Text) : decode (encode text) = text := by
  unfold decode pieces
  rw [piecesFrom_encode,List.reverse_nil,List.nil_append,List.map_map]
  exact List.map_id text

end SchemaLint.Utf8
