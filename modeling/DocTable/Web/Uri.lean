/-
**Targets of requests.**

A target is a path with an optional query, an authority alone, or both behind a scheme. A fragment
is cut off.

* `Target.ofUri?`: the path and the query of a target, if it is well formed.
-/

namespace DocTable.Web

/-- What a request asks for. -/
structure Target where
  path : String
  query : Option String
deriving DecidableEq, Repr

/-- A character that a path may hold as it is. -/
def isPathChar (c : Char) : Bool :=
  let n := c.toNat
  n = 0x21 || n = 0x22 || (0x24 ≤ n && n ≤ 0x3b) || n = 0x3d || (0x40 ≤ n && n ≤ 0x5f)
    || (0x61 ≤ n && n ≤ 0x7e) || 0x7f ≤ n

/-- A character that a query may hold as it is. -/
def isQueryChar (c : Char) : Bool :=
  let n := c.toNat
  n = 0x21 || (0x24 ≤ n && n ≤ 0x3b) || n = 0x3d || 0x3f ≤ n

/-- A character of a scheme. -/
def isSchemeChar (c : Char) : Bool := c.isAlphanum || c = '+' || c = '-' || c = '.'

/-- A character of an authority; a percent sign has rules of its own. -/
def isAuthorityChar (c : Char) : Bool :=
  c.isAlphanum || "!$&'()*+,-.:;=@[]_~%".toList.contains c

/-- A character that ends an authority. -/
def endsAuthority (c : Char) : Bool := c = '/' || c = '?' || c = '#'

/-- What has been seen of an authority. -/
structure AuthorityScan where
  colons : Nat
  opened : Bool
  closed : Bool
  percent : Bool
  /-- Whether the last character was an at sign. -/
  bareUser : Bool
deriving DecidableEq, Repr

namespace AuthorityScan

def start : AuthorityScan := ⟨0, false, false, false, false⟩

/-- Reads a character. Colons and percent signs in front of an at sign or inside brackets are no
part of host and port. -/
def step (s : AuthorityScan) (c : Char) : Option AuthorityScan :=
  if !isAuthorityChar c then none
  else if c = ':' then
    if 8 ≤ s.colons then none else some { s with colons := s.colons + 1, bareUser := false }
  else if c = '[' then
    if s.percent || s.opened then none else some { s with opened := true, bareUser := false }
  else if c = ']' then
    if !s.opened || s.closed then none else some ⟨0, true, true, false, false⟩
  else if c = '@' then some { s with colons := 0, percent := false, bareUser := true }
  else if c = '%' then some { s with percent := true, bareUser := false }
  else some { s with bareUser := false }

/-- Whether the authority is complete: brackets in pairs, one port at most, a host behind its user,
no percent sign in the host. -/
def isComplete (s : AuthorityScan) : Bool :=
  s.opened == s.closed && decide (s.colons ≤ 1) && !s.bareUser && !s.percent

end AuthorityScan

/-- Whether an authority is well formed. -/
def isAuthority (chars : List Char) : Bool :=
  (chars.foldlM AuthorityScan.step .start).any AuthorityScan.isComplete

/-- The longest scheme and the longest target, in characters and in bytes. -/
def longestScheme : Nat := 64
def longestUri : Nat := 65534

/-- The scheme of a target with one, and what follows the slashes behind it. -/
def splitScheme? (chars : List Char) : Option (List Char × List Char) :=
  match chars.dropWhile isSchemeChar with
  | ':' :: '/' :: '/' :: rest => some (chars.takeWhile isSchemeChar, rest)
  | _ => none

namespace Target

/-- The path and the query of the part behind the authority. Without a path it is the root. -/
def ofPathAndQuery? (chars : List Char) : Option Target :=
  let path := chars.takeWhile fun c => c ≠ '?' ∧ c ≠ '#'
  if !path.all isPathChar then none
  else
    let text := if path = [] then "/" else String.ofList path
    match chars.dropWhile fun c => c ≠ '?' ∧ c ≠ '#' with
    | '?' :: rest =>
      let query := rest.takeWhile (· ≠ '#')
      if query.all isQueryChar then some ⟨text, some (String.ofList query)⟩ else none
    | _ => some ⟨text, none⟩

/-- The target of an authority and what follows it. -/
def ofAbsolute? (scheme rest : List Char) : Option Target :=
  let authority := rest.takeWhile (!endsAuthority ·)
  if longestScheme < scheme.length ∨ authority = [] ∨ !isAuthority authority then none
  else ofPathAndQuery? (rest.dropWhile (!endsAuthority ·))

/-- The path and the query of a target. An authority alone has the empty path. -/
def ofUri? (uri : String) : Option Target :=
  let chars := uri.toList
  if longestUri < uri.utf8ByteSize then none
  else match chars with
    | [] => none
    | ['*'] => some ⟨"*", none⟩
    | '/' :: _ => ofPathAndQuery? chars
    | _ =>
      match splitScheme? chars with
      | some (scheme, rest) => ofAbsolute? scheme rest
      | none => if isAuthority chars then some ⟨"", none⟩ else none

end Target

end DocTable.Web
