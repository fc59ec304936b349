/-!
# UTF-8

Bytes as characters. A fault names the bytes that cannot be read and why: a byte that begins no
character, one that does not continue the character before it, or an end in the middle of one.
-/

namespace Deduce.Text

-- one instance of powers, whatever else is imported
attribute [local instance (high)] instPowNat

inductive Utf8Fault where
  | invalidStart
  | invalidContinuation
  | unexpectedEnd
  deriving DecidableEq

def Utf8Fault.reason : Utf8Fault → String
  | invalidStart => "invalid start byte"
  | invalidContinuation => "invalid continuation byte"
  | unexpectedEnd => "unexpected end of data"

/-- How many bytes follow a first byte, and the range of the next one: it keeps out overlong forms,
surrogates and code points beyond the last. -/
def continuation? (first : Nat) : Option (Nat × Nat × Nat) :=
  if 0xC2 ≤ first ∧ first ≤ 0xDF then some (1, 0x80, 0xBF)
  else if first = 0xE0 then some (2, 0xA0, 0xBF)
  else if first = 0xED then some (2, 0x80, 0x9F)
  else if 0xE1 ≤ first ∧ first ≤ 0xEF then some (2, 0x80, 0xBF)
  else if first = 0xF0 then some (3, 0x90, 0xBF)
  else if 0xF1 ≤ first ∧ first ≤ 0xF3 then some (3, 0x80, 0xBF)
  else if first = 0xF4 then some (3, 0x80, 0x8F)
  else none

/-- The bits of a first byte that belong to the code point. -/
def leadingBits (first follow : Nat) : Nat := first % 2 ^ (6 - follow)

/-- Reads `left` more bytes of a character, the next between `low` and `high`. -/
def continueChar : (left low high code : Nat) → List UInt8 → Except Utf8Fault (Nat × List UInt8)
  | 0, _, _, code, bytes => .ok (code, bytes)
  | _ + 1, _, _, _, [] => .error .unexpectedEnd
  | left + 1, low, high, code, byte :: bytes =>
    let b := byte.toNat
    if low ≤ b ∧ b ≤ high then continueChar left 0x80 0xBF (code * 64 + b % 64) bytes
    else .error .invalidContinuation

def firstChar : List UInt8 → Except Utf8Fault (Char × List UInt8)
  | [] => .error .unexpectedEnd
  | byte :: bytes =>
    let b := byte.toNat
    if b < 0x80 then .ok (Char.ofNat b, bytes)
    else
      match continuation? b with
      | none => .error .invalidStart
      | some (follow, low, high) =>
        match continueChar follow low high (leadingBits b follow) bytes with
        | .ok (code, rest) => .ok (Char.ofNat code, rest)
        | .error fault => .error fault

/-- The characters of some bytes, or those up to a fault with the bytes from there on. Every
character takes a byte at least, so that the number of bytes bounds the number of steps. -/
def decodeFrom : Nat → List UInt8 → List Char → Except (List UInt8 × Utf8Fault) (List Char)
  | _, [], done => .ok done.reverse
  | 0, bytes, _ => .error (bytes, .unexpectedEnd)
  | steps + 1, bytes, done =>
    match firstChar bytes with
    | .ok (c, rest) => decodeFrom steps rest (c :: done)
    | .error fault => .error (bytes, fault)

/-- How many bytes at the start of a fault are named: all that could still have been one character. -/
def faultWidth (bytes : List UInt8) : Utf8Fault → Nat
  | .unexpectedEnd => bytes.length
  | .invalidStart => 1
  | .invalidContinuation =>
    match bytes with
    | [] => 0
    | first :: rest =>
      match continuation? first.toNat with
      | none => 1
      | some (_, low, high) =>
        match rest with
        | [] => 1
        | second :: more =>
          if second.toNat < low ∨ high < second.toNat then 1
          else 2 + (more.takeWhile fun b => 0x80 ≤ b.toNat && b.toNat ≤ 0xBF).length

def byteDigits (b : UInt8) : List Char :=
  let digits := Nat.toDigits 16 b.toNat
  List.replicate (2 - digits.length) '0' ++ digits

def faultMessage (start : Nat) (bytes : List UInt8) (fault : Utf8Fault) : String :=
  let number (n : Nat) := String.ofList (Nat.toDigits 10 n)
  let width := faultWidth bytes fault
  let place :=
    if width ≤ 1 then
      "byte 0x" ++ String.ofList ((bytes.head?.map byteDigits).getD []) ++ " in position " ++
        number start
    else "bytes in position " ++ number start ++ "-" ++ number (start + width - 1)
  "'utf-8' codec can't decode " ++ place ++ ": " ++ fault.reason

def decode (bytes : List UInt8) : Except String (List Char) :=
  match decodeFrom bytes.length bytes [] with
  | .ok chars => .ok chars
  | .error (rest, fault) => .error (faultMessage (bytes.length - rest.length) rest fault)

/-- Reads bytes block by block; what a block ends with in the middle of a character goes to the next.
The characters of the blocks in front of a fault come with its message. A fault is counted from the
start of its block, what is left over from the block before included. -/
def decodeBlocks (size : Nat) : (blocks : Nat) → (left bytes : List UInt8) →
    List Char × Option String
  | 0, left, _ =>
    match decode left with
    | .ok chars => (chars, none)
    | .error message => ([], some message)
  | blocks + 1, left, bytes =>
    let block := left ++ bytes.take size
    let goOn (chars : List Char) (left : List UInt8) : List Char × Option String :=
      let (more, message) := decodeBlocks size blocks left (bytes.drop size)
      (chars ++ more, message)
    match decodeFrom block.length block [] with
    | .ok chars => goOn chars []
    | .error (left, .unexpectedEnd) =>
      match decode (block.take (block.length - left.length)) with
      | .ok chars => goOn chars left
      | .error message => ([], some message)
    | .error (rest, fault) => ([], some (faultMessage (block.length - rest.length) rest fault))

/-- The characters of a stream that is read in blocks of `size` bytes, up to the block with the first
fault, and the message of that fault. -/
def decodeStream (size : Nat) (bytes : List UInt8) : List Char × Option String :=
  decodeBlocks size (bytes.length / size + 1) [] bytes

/-- The byte order mark, which has no width. -/
def byteOrderMark : Char := '\uFEFF'

def dropMark : List Char → List Char
  | [] => []
  | c :: rest => if c == byteOrderMark then rest else c :: rest

/-- Carriage returns, alone or before a line feed, become line feeds. -/
def unifyBreaks : List Char → List Char
  | '\r' :: '\n' :: rest => '\n' :: unifyBreaks rest
  | '\r' :: rest => '\n' :: unifyBreaks rest
  | c :: rest => c :: unifyBreaks rest
  | [] => []

end Deduce.Text
