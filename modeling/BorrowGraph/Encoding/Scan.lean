/-
Scanning bytes for the first place where they do not follow an encoding.

An encoding is given by what the bytes at one position are, in a state that the bytes before
have left: `Step`.  `firstFault?` follows the steps from the beginning and stops at the first
bytes that a step does not take.
-/
import BorrowGraph.Utf8

namespace BorrowGraph.Encoding

/-- A run of `width` bytes from `start`, the first of them `first`, that does not follow `codec`. -/
structure Misread where
  codec : String
  first : UInt8
  start : Nat
  width : Nat
  reason : String
  deriving DecidableEq, Repr

def Misread.message (e : Misread) : String :=
  if e.width = 1 then
    "'" ++ e.codec ++ "' codec can't decode byte 0x" ++ Utf8.hexByte e.first ++ " in position "
      ++ Nat.repr e.start ++ ": " ++ e.reason
  else
    "'" ++ e.codec ++ "' codec can't decode bytes in position " ++ Nat.repr e.start ++ "-"
      ++ Nat.repr (e.start + e.width - 1) ++ ": " ++ e.reason

/-- The first of the bytes that are not text by themselves. -/
def firstGap? (codec reason : String) (isGap : UInt8 → Bool) (pos : Nat) :
    List UInt8 → Option Misread
  | [] => none
  | b :: bs =>
    if isGap b then some ⟨codec, b, pos, 1, reason⟩
    else firstGap? codec reason isGap (pos + 1) bs

/-- What is wrong with bytes that are not ASCII. -/
def notAscii? (bytes : List UInt8) : Option Misread :=
  firstGap? "ascii" "ordinal not in range(128)" (128 ≤ ·.toNat) 0 bytes

/-- Why the reading of bytes ends. -/
inductive Unread where
  | misread (error : Misread)
  /-- The encoding has no rule for what comes here. -/
  | stuck
  deriving DecidableEq, Repr

/-- What the bytes at one position are, when `σ` is the state of the encoding. -/
inductive Step (σ : Type) where
  /-- A unit of some width, and the state behind it. -/
  | taken (width : Nat) (next : σ)
  /-- So many bytes are refused. -/
  | refused (width : Nat) (reason : String)
  /-- The encoding has no rule for these bytes. -/
  | stuck
  deriving DecidableEq, Repr

namespace Step

/-- Bytes that stand for no character. -/
def illegal {σ : Type} (width : Nat) : Step σ :=
  .refused width "illegal multibyte sequence"

/-- The end of the bytes cuts off a character that begins `before` bytes before the rest. -/
def cutOff {σ : Type} (before : Nat) (rest : List UInt8) : Step σ :=
  .refused (before + rest.length) "incomplete multibyte sequence"

end Step

/-- Where the reading ends before the bytes do, from position `pos`, after `skip` bytes of a
unit already taken. -/
def firstFault? {σ : Type} (codec : String) (step : σ → UInt8 → List UInt8 → Step σ)
    (state : σ) (skip pos : Nat) : List UInt8 → Option Unread
  | [] => none
  | b :: bs =>
    match skip with
    | skip + 1 => firstFault? codec step state skip (pos + 1) bs
    | 0 =>
      match step state b bs with
      | .taken width next => firstFault? codec step next (width - 1) (pos + 1) bs
      | .refused width reason => some (.misread ⟨codec, b, pos, width, reason⟩)
      | .stuck => some .stuck

end BorrowGraph.Encoding
