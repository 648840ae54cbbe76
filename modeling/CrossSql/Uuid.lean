/-!
# Universally unique identifiers

## Main definitions

* `Uuid`: 128 bits.
* `Uuid.text`: the hyphenated form in lower case.
* `Uuid.ofText?`: reads 32 digits, the hyphenated form, that form between braces, and that form
  after `urn:uuid:`.
-/

namespace CrossSql

structure Uuid where
  bits : BitVec 128
  deriving DecidableEq

namespace Uuid

/-- How many digits stand between the hyphens. -/
def groups : List Nat := [8, 4, 4, 4, 12]

def hexDigits (u : Uuid) : List Char :=
  let digits := Nat.toDigits 16 u.bits.toNat
  List.replicate (32 - digits.length) '0' ++ digits

def cut : List Nat → List Char → List (List Char)
  | [], _ => []
  | n :: ns, cs => cs.take n :: cut ns (cs.drop n)

def text (u : Uuid) : String :=
  "-".intercalate ((cut groups u.hexDigits).map String.ofList)

def hexValue? (c : Char) : Option Nat :=
  if c.isDigit then some (c.toNat - '0'.toNat)
  else if 'a' ≤ c ∧ c ≤ 'f' then some (c.toNat - 'a'.toNat + 10)
  else if 'A' ≤ c ∧ c ≤ 'F' then some (c.toNat - 'A'.toNat + 10)
  else none

def ofDigits? (cs : List Char) : Option Uuid :=
  if cs.length = 32 then
    (cs.foldlM (fun n c => (hexValue? c).map (16 * n + ·)) 0).map fun n => ⟨BitVec.ofNat 128 n⟩
  else none

/-- Takes the groups of digits apart, with one hyphen between two of them. -/
def unhyphenated? : List Nat → List Char → Option (List Char)
  | [], cs => if cs.isEmpty then some [] else none
  | [n], cs => if cs.length = n then some cs else none
  | n :: ns, cs =>
    match cs.drop n with
    | '-' :: rest => (unhyphenated? ns rest).map (cs.take n ++ ·)
    | _ => none

def ofHyphenated? (cs : List Char) : Option Uuid := (unhyphenated? groups cs).bind ofDigits?

def ofChars? (cs : List Char) : Option Uuid :=
  match cs.length with
  | 32 => ofDigits? cs
  | 36 => ofHyphenated? cs
  | 38 =>
    if cs.head? = some '\x7b' ∧ cs.getLast? = some '\x7d' then ofHyphenated? (cs.drop 1).dropLast
    else none
  | 45 =>
    if (cs.take 9).map Char.toLower = "urn:uuid:".toList then ofHyphenated? (cs.drop 9) else none
  | _ => none

def ofText? (s : String) : Option Uuid := ofChars? s.toList

end Uuid

end CrossSql
