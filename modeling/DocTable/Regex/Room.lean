/-
**The room of compiled patterns.**

The compiler of the server takes patterns of up to ten mebibytes. It goes by an estimate: a state for each
byte that is spelled out, with the ways to go on from it, and for the larger sets what all their states
take. Nothing that holds of every compiler rests on it.

* `CharSet.room`, `Node.room`: about the number of bytes that a pattern takes;
* `roomLimit`: the number of bytes that it may take.
-/

import DocTable.Regex.Parser

namespace DocTable.Regex

/-- The room of a state. -/
def stateRoom : Nat := 32

/-- The room of characters that one state reads if they are ASCII and that are spelled out in UTF-8 if
they are not, where those that begin alike share their first states. -/
def roomOfChars (chars : List Char) : Nat :=
  if chars.all (·.toNat < 128) then 2 * stateRoom + 8 * chars.length
  else
    let beginnings := chars.flatMap fun c =>
      let bytes := String.utf8EncodeChar c
      (List.range bytes.length).map fun n => bytes.take (n + 1)
    2 * stateRoom + 4 * chars.length + stateRoom * beginnings.eraseDups.length

/-- About the number of bytes that a set takes in a compiled pattern. -/
def CharSet.room : CharSet → Nat
  | .nothing => stateRoom
  | .range low high =>
    if low = high then stateRoom * low.utf8Size else if high.toNat < 128 then 72 else 164
  | .listed ranges => 2 * stateRoom + 62 * ranges.length
  | .digit => 5116
  | .blank => 680
  | .word => 49800
  | .union a b => a.room + b.room
  | .meet a b => min a.room b.room
  | .complement a => 1000 + a.room
  | .folded (.range low high) =>
    if low ≠ high then 2 * (CharSet.range low high).room
    else
      match Text.foldMates low with
      | [_] => stateRoom * low.utf8Size
      | mates => roomOfChars mates
  | .folded a => 2 * a.room

/-- About the number of bytes that a pattern takes with every repetition written out. -/
def Node.room : Node → Nat
  | .empty => stateRoom
  | .set s => s.room
  | .look _ => stateRoom
  | .cat first second => first.room + second.room
  | .alt first second => first.room + second.room + 68
  | .repeated body low none => body.room * max 1 low + 40
  | .repeated body low (some high) => body.room * low + (high - low) * (body.room + 40) + stateRoom

/-- The largest room that a pattern may take: ten mebibytes, less what finding its start and keeping its
bounds takes. -/
def roomLimit : Nat := 10 * 2 ^ 20 - 208

/-- The compiler of the server. -/
instance serverCompiler : Compiler where
  takes pattern := decide (pattern.room ≤ roomLimit)

end DocTable.Regex
