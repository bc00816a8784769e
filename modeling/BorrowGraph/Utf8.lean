/-
Decoding UTF-8, with an exact account of what is wrong.

`Utf8.next` classifies the bytes at one position: a complete character, an invalid run of
bytes, or the beginning of a character that the data cuts off.  `Utf8.decode` reads a whole
file.  A listing is read piece by piece instead, and `Utf8.decodeChunks` counts the position of
a fault from the start of the piece in which it shows, the bytes left over from the piece
before included.
-/

namespace BorrowGraph.Utf8

/-- What is wrong with a run of bytes. -/
inductive Reason where
  | invalidStart
  | invalidContinuation
  | unexpectedEnd
  deriving DecidableEq, Repr

/-- The wording of a reason. -/
def Reason.text : Reason → String
  | .invalidStart => "invalid start byte"
  | .invalidContinuation => "invalid continuation byte"
  | .unexpectedEnd => "unexpected end of data"

/-- A run of `width` bytes from `start`, the first of them `first`, that is not UTF-8. -/
structure Error where
  first : UInt8
  start : Nat
  width : Nat
  reason : Reason
  deriving DecidableEq, Repr

/-- Two lower-case hexadecimal digits of a byte. -/
def hexByte (b : UInt8) : String :=
  let ds := Nat.toDigits 16 b.toNat
  String.ofList (List.replicate (2 - ds.length) '0' ++ ds)

/-- The message of a decoding fault. -/
def Error.message (e : Error) : String :=
  if e.width = 1 then
    "'utf-8' codec can't decode byte 0x" ++ hexByte e.first ++ " in position "
      ++ Nat.repr e.start ++ ": " ++ e.reason.text
  else
    "'utf-8' codec can't decode bytes in position " ++ Nat.repr e.start ++ "-"
      ++ Nat.repr (e.start + e.width - 1) ++ ": " ++ e.reason.text

/-- The bytes at one position. -/
inductive Head where
  | scalar (c : Char) (width : Nat)
  | invalid (width : Nat) (reason : Reason)
  | cutOff (width : Nat)
  deriving DecidableEq, Repr

/-- A byte that continues a character. -/
def isContinuation (b : UInt8) : Bool :=
  0x80 ≤ b.toNat && b.toNat < 0xc0

/-- The six payload bits of a continuation byte. -/
def payload (b : UInt8) : Nat :=
  b.toNat % 0x40

/-- The second bytes that may follow a first byte: overlong forms, surrogates and codes beyond the
last one are excluded here. -/
def secondAllowed (first second : UInt8) : Bool :=
  let lo := if first.toNat = 0xe0 then 0xa0 else if first.toNat = 0xf0 then 0x90 else 0x80
  let hi := if first.toNat = 0xed then 0x9f else if first.toNat = 0xf4 then 0x8f else 0xbf
  lo ≤ second.toNat && second.toNat ≤ hi

/-- Classify the first bytes of non-empty data. -/
def next (b : UInt8) (rest : List UInt8) : Head :=
  let n := b.toNat
  if n < 0x80 then .scalar (Char.ofNat n) 1
  else if n < 0xc2 then .invalid 1 .invalidStart
  else if n < 0xe0 then
    match rest with
    | [] => .cutOff 1
    | b₁ :: _ =>
      if isContinuation b₁ then .scalar (Char.ofNat ((n - 0xc0) * 0x40 + payload b₁)) 2
      else .invalid 1 .invalidContinuation
  else if n < 0xf0 then
    match rest with
    | [] => .cutOff 1
    | b₁ :: rest =>
      if !secondAllowed b b₁ then .invalid 1 .invalidContinuation
      else
        match rest with
        | [] => .cutOff 2
        | b₂ :: _ =>
          if isContinuation b₂ then
            .scalar (Char.ofNat ((n - 0xe0) * 0x1000 + payload b₁ * 0x40 + payload b₂)) 3
          else .invalid 2 .invalidContinuation
  else if n < 0xf5 then
    match rest with
    | [] => .cutOff 1
    | b₁ :: rest =>
      if !secondAllowed b b₁ then .invalid 1 .invalidContinuation
      else
        match rest with
        | [] => .cutOff 2
        | b₂ :: rest =>
          if !isContinuation b₂ then .invalid 2 .invalidContinuation
          else
            match rest with
            | [] => .cutOff 3
            | b₃ :: _ =>
              if isContinuation b₃ then
                .scalar (Char.ofNat ((n - 0xf0) * 0x40000 + payload b₁ * 0x1000
                  + payload b₂ * 0x40 + payload b₃)) 4
              else .invalid 3 .invalidContinuation
  else .invalid 1 .invalidStart

/-- The characters of some data up to its end, to its first fault, or to a character that the end
of the data cuts off. -/
structure Decoded where
  chars : List Char
  fault : Option Error
  /-- The bytes of a character that the end cuts off. -/
  pending : List UInt8
  deriving Repr

/-- Decode from position `pos`, after skipping `skip` bytes of a character already read. -/
def decodeFrom (skip pos : Nat) : List UInt8 → Decoded
  | [] => ⟨[], none, []⟩
  | b :: bs =>
    match skip with
    | skip + 1 => decodeFrom skip (pos + 1) bs
    | 0 =>
      match next b bs with
      | .scalar c width =>
        let tail := decodeFrom (width - 1) (pos + 1) bs
        { tail with chars := c :: tail.chars }
      | .invalid width reason => ⟨[], some ⟨b, pos, width, reason⟩, []⟩
      | .cutOff _ => ⟨[], none, b :: bs⟩

/-- Decode a whole file at once. -/
def decode (bytes : List UInt8) : Except Error (List Char) :=
  let d := decodeFrom 0 0 bytes
  match d.fault, d.pending with
  | some e, _ => .error e
  | none, [] => .ok d.chars
  | none, b :: bs =>
    .error ⟨b, bytes.length - (bs.length + 1), bs.length + 1, .unexpectedEnd⟩

/-- The size of the pieces in which a listing is read. -/
def chunkSize : Nat := 8192

/-- Whether the two last bytes of a piece begin a surrogate, which is refused only once the next
piece is there. -/
def cutsSurrogate (data : List UInt8) (e : Error) : Bool :=
  match data.drop e.start with
  | [b₀, b₁] => b₀.toNat == 0xed && 0xa0 ≤ b₁.toNat && b₁.toNat ≤ 0xbf
  | _ => false

/-- Decode data in pieces of at most `chunkSize` bytes, each behind the bytes pending from the piece
before: the characters of all good pieces, and the fault that ends them.  There are at most `fuel`
pieces. -/
def decodeChunksFrom : Nat → List UInt8 → List UInt8 → List Char × Option Error
  | 0, _, _ => ([], none)
  | fuel + 1, pending, bytes =>
    if bytes.isEmpty then
      match decode pending with
      | .ok chars => (chars, none)
      | .error e => ([], some e)
    else
      let data := pending ++ bytes.take chunkSize
      let d := decodeFrom 0 0 data
      match d.fault with
      | some e =>
        if cutsSurrogate data e then
          let (chars, fault) := decodeChunksFrom fuel (data.drop e.start) (bytes.drop chunkSize)
          (d.chars ++ chars, fault)
        else ([], some e)
      | none =>
        let (chars, fault) := decodeChunksFrom fuel d.pending (bytes.drop chunkSize)
        (d.chars ++ chars, fault)

/-- Decode data piece by piece. -/
def decodeChunks (bytes : List UInt8) : List Char × Option Error :=
  decodeChunksFrom (bytes.length / chunkSize + 2) [] bytes

/-- The bytes of a text. -/
def encode (s : String) : List UInt8 :=
  s.toUTF8.toList

end BorrowGraph.Utf8
