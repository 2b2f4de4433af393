import BeamRun.Decimal
import BeamRun.Text

namespace BeamRun.Report

structure Identifier where
  bits : BitVec 128
  deriving DecidableEq, Repr

namespace Identifier

def groupLengths : List Nat := [8, 4, 4, 4, 12]

def pieces {α : Type} : List Nat → List α → List (List α)
  | [], _ => []
  | n :: ns, xs => xs.take n :: pieces ns (xs.drop n)

def hyphenated (digits : List Char) : List Char :=
  ['-'].intercalate (pieces groupLengths digits)

def text (i : Identifier) : String :=
  String.ofList (hyphenated ((Decimal.hexDigits i.bits.toNat).leftpad 32 '0'))

/-- A random identifier from random bits: version and variant are put in their places. -/
def ofRandom (n : Nat) : Identifier :=
  let bits := BitVec.ofNat 128 n
  let version : BitVec 128 := BitVec.ofNat 128 (4 <<< 76)
  let versionMask : BitVec 128 := BitVec.ofNat 128 (15 <<< 76)
  let variant : BitVec 128 := BitVec.ofNat 128 (2 <<< 62)
  let variantMask : BitVec 128 := BitVec.ofNat 128 (3 <<< 62)
  ⟨(bits &&& ~~~(versionMask ||| variantMask)) ||| version ||| variant⟩

inductive Fault where
  | character (c : Char) (index : Nat)
  | length (found : Nat)
  | groupCount (found : Nat)
  | groupLength (group found : Nat)
  deriving DecidableEq, Repr

def Fault.message : Fault → String
  | character c index =>
    "invalid character: found `" ++ c.toString ++ "` at " ++ toString index
  | length found => "invalid length: found " ++ toString found
  | groupCount found => "invalid group count: expected 5, found " ++ toString found
  | groupLength group found =>
    "invalid group length in group " ++ toString group ++ ": expected " ++
      toString (groupLengths.getD group 0) ++ ", found " ++ toString found

def urn : List Char := "urn:uuid:".toList

def hasScheme (cs : List Char) : Bool := (cs.take urn.length).map Char.toLower = urn

def inBraces (cs : List Char) : Bool :=
  cs.head? = some '\x7b' && cs.getLast? = some '\x7d' && 2 ≤ cs.length

/-- The groups of a text whose size is that of a form with hyphens: alone, in braces, or behind the
scheme, which may be in any case. -/
def groups? (cs : List Char) : Option (List Char) :=
  let size := Text.byteCount cs
  if size = 36 then some cs
  else if size = 38 ∧ inBraces cs then some cs.tail.dropLast
  else if size = 45 ∧ hasScheme cs then some (cs.drop urn.length)
  else none

def isPart (c : Char) : Bool := Decimal.isHexDigit c || c = '-'

def hyphens (cs : List Char) : List Nat :=
  (List.range cs.length).filter fun i => cs[i]? = some '-'

def groupEnds : List Nat := [8, 13, 18, 23]

/-- The fault of what should be groups. The position of a character is counted from `offset`; a last
group of the wrong length is given what is left of `size` bytes behind the other groups. -/
def groupFault (offset size : Nat) (cs : List Char) : Fault :=
  match cs.find? (!isPart ·) with
  | some c => .character c (offset + Text.byteCount (cs.takeWhile isPart))
  | none =>
    let found := hyphens cs
    if found.length ≠ 4 then .groupCount (found.length + 1)
    else
      match ((found.zip groupEnds).zipIdx).find? fun e => e.1.1 ≠ e.1.2 with
      | some ((stands, belongs), group) =>
        .groupLength group (stands + groupLengths.getD group 0 - belongs)
      | none => .groupLength 4 (size - 24)

def longest : Nat := 45

/-- The first fault of a text that is no identifier. Longer texts than any form are not looked at. In a
text of no known size that is wrapped, positions count from its beginning. -/
def fault (cs : List Char) : Fault :=
  let size := Text.byteCount cs
  if longest < size then .length size
  else
    match groups? cs with
    | some body => groupFault 0 size body
    | none =>
      if inBraces cs then groupFault 1 size cs.tail.dropLast
      else if hasScheme cs then groupFault urn.length size (cs.drop urn.length)
      else if cs.all Decimal.isHexDigit then .length size
      else groupFault 0 size cs

def ofDigits (digits : List Char) : Identifier := ⟨BitVec.ofNat 128 (Decimal.hexValue digits)⟩

/-- Thirty-two digits, or hyphenated groups that may stand in braces or behind the scheme. -/
def parse (text : String) : Except Fault Identifier :=
  let cs := text.toList
  if cs.length = 32 ∧ cs.all Decimal.isHexDigit then .ok (ofDigits cs)
  else
    match groups? cs with
    | some body =>
      let digits := body.filter (· ≠ '-')
      if body = hyphenated digits ∧ digits.length = 32 ∧ digits.all Decimal.isHexDigit then
        .ok (ofDigits digits)
      else .error (fault cs)
    | none => .error (fault cs)

end Identifier
end BeamRun.Report
