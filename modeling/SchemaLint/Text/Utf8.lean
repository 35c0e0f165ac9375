import SchemaLint.Text.Blank

/-! UTF-8. Decoding never fails: bytes that are no character are kept apart as broken pieces, each as
long as the longest start of a character that it could have been, and at least one byte. Reading with
replacement puts U+FFFD for each of them.
-/
namespace SchemaLint

abbrev Bytes := List UInt8

namespace Utf8

def replacement : Char := '\uFFFD'

/-- The start of a character of several bytes: the bits read so far, the bounds of the next byte, the
number of bytes owed after that one, and the bytes read, in reverse. -/
structure Pending where
  value : Nat
  low : Nat
  high : Nat
  more : Nat
  read : Bytes

inductive Piece where
  | char (c : Char)
  | broken (bytes : Bytes)
  deriving DecidableEq, Repr

def begin (out : List Piece) (byte : UInt8) : List Piece × Option Pending :=
  let b := byte.toNat
  if b ≤ 0x7F then (.char (Char.ofNat b) :: out,none)
  else if b ≤ 0xC1 then (.broken [byte] :: out,none)
  else if b ≤ 0xDF then (out,some ⟨b - 0xC0,0x80,0xBF,0,[byte]⟩)
  else if b = 0xE0 then (out,some ⟨0,0xA0,0xBF,1,[byte]⟩)
  else if b = 0xED then (out,some ⟨0xD,0x80,0x9F,1,[byte]⟩)
  else if b ≤ 0xEF then (out,some ⟨b - 0xE0,0x80,0xBF,1,[byte]⟩)
  else if b = 0xF0 then (out,some ⟨0,0x90,0xBF,2,[byte]⟩)
  else if b ≤ 0xF3 then (out,some ⟨b - 0xF0,0x80,0xBF,2,[byte]⟩)
  else if b = 0xF4 then (out,some ⟨4,0x80,0x8F,2,[byte]⟩)
  else (.broken [byte] :: out,none)

/-- The reading of one byte. A byte that cannot continue what is pending breaks it off there and is
read as if it stood between characters. -/
def step (out : List Piece) (pending : Option Pending) (byte : UInt8) :
    List Piece × Option Pending :=
  match pending with
  | none => begin out byte
  | some p =>
    if p.low ≤ byte.toNat && byte.toNat ≤ p.high then
      let value := p.value * 64 + (byte.toNat - 0x80)
      match p.more with
      | 0 => (.char (Char.ofNat value) :: out,none)
      | more + 1 => (out,some ⟨value,0x80,0xBF,more,byte :: p.read⟩)
    else begin (.broken p.read.reverse :: out) byte

def piecesFrom (out : List Piece) (pending : Option Pending) : Bytes → List Piece
  | [] =>
    match pending with
    | none => out.reverse
    | some p => (.broken p.read.reverse :: out).reverse
  | byte :: rest =>
    let (out,pending) := step out pending byte
    piecesFrom out pending rest

def pieces (bytes : Bytes) : List Piece :=
  piecesFrom [] none bytes

def Piece.replaced : Piece → Char
  | .char c => c
  | .broken _ => replacement

/-- Decodes with U+FFFD for every broken piece. -/
def decode (bytes : Bytes) : Text :=
  (pieces bytes).map Piece.replaced

def encodeChar (c : Char) : Bytes :=
  let n := c.toNat
  if n ≤ 0x7F then [n.toUInt8]
  else if n ≤ 0x7FF then [(0xC0 + n / 64).toUInt8,(0x80 + n % 64).toUInt8]
  else if n ≤ 0xFFFF then
    [(0xE0 + n / 4096).toUInt8,(0x80 + n / 64 % 64).toUInt8,(0x80 + n % 64).toUInt8]
  else
    [(0xF0 + n / 262144).toUInt8,(0x80 + n / 4096 % 64).toUInt8,(0x80 + n / 64 % 64).toUInt8,
      (0x80 + n % 64).toUInt8]

def encode (text : Text) : Bytes :=
  text.flatMap encodeChar

def size (text : Text) : Nat :=
  text.foldl (fun n c => n + c.utf8Size) 0

end Utf8
end SchemaLint
