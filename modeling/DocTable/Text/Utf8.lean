/-
**Bytes read as UTF-8.**

A decoder holds what it needs to know of the sequence it is in. Each byte gives the characters it
completes; a byte that cannot continue its sequence ends it as one fault and is then read afresh.

* `scan`: the characters of a byte string, `none` for each fault;
* `decode?`: the text of a byte string without faults;
* `decodeLossy`: the text with U+FFFD in the place of each fault.
-/

namespace DocTable.Text.Utf8

/-- Inside a sequence: bytes still to come, the range of the next one, and the bits so far. -/
inductive Decoder where
  | ready
  | inside (missing : Nat) (low high : UInt8) (bits : Nat)
deriving DecidableEq, Repr

/-- Reads a byte that begins a sequence. -/
def Decoder.begin (b : UInt8) : List (Option Char) × Decoder :=
  if b < 0x80 then ([some (Char.ofNat b.toNat)], .ready)
  else if b < 0xc2 then ([none], .ready)
  else if b < 0xe0 then ([], .inside 1 0x80 0xbf (b.toNat - 0xc0))
  else if b < 0xf0 then
    let low := if b = 0xe0 then 0xa0 else 0x80
    let high := if b = 0xed then 0x9f else 0xbf
    ([], .inside 2 low high (b.toNat - 0xe0))
  else if b < 0xf5 then
    let low := if b = 0xf0 then 0x90 else 0x80
    let high := if b = 0xf4 then 0x8f else 0xbf
    ([], .inside 3 low high (b.toNat - 0xf0))
  else ([none], .ready)

/-- Reads the next byte. -/
def Decoder.step (d : Decoder) (b : UInt8) : List (Option Char) × Decoder :=
  match d with
  | .ready => begin b
  | .inside missing low high bits =>
    if low ≤ b ∧ b ≤ high then
      let more := bits * 64 + (b.toNat - 0x80)
      if missing ≤ 1 then ([some (Char.ofNat more)], .ready)
      else ([], .inside (missing - 1) 0x80 0xbf more)
    else (none :: (begin b).1, (begin b).2)

/-- Reads the next byte behind the characters found so far, the last one in front. -/
def advance (state : List (Option Char) × Decoder) (b : UInt8) : List (Option Char) × Decoder :=
  ((state.2.step b).1.reverse ++ state.1, (state.2.step b).2)

/-- The characters of the bytes, `none` for each fault. -/
def scan (bytes : List UInt8) : List (Option Char) :=
  let final := bytes.foldl advance ([], .ready)
  (if final.2 = .ready then final.1 else none :: final.1).reverse

/-- The text of bytes that are all in order. -/
def decode? (bytes : List UInt8) : Option String := ((scan bytes).mapM id).map String.ofList

/-- The text of bytes, each fault replaced. -/
def decodeLossy (bytes : List UInt8) : String :=
  String.ofList ((scan bytes).map (·.getD (Char.ofNat 0xfffd)))

/-- The bytes of a text. -/
def encode (s : String) : List UInt8 := s.toUTF8.toList

end DocTable.Text.Utf8
