/-!
# Base64

Octets in groups of three as four letters, the last group filled up with equals signs. Reading is strict: only letters of the alphabet, whole groups of four, and a filled group only at the end. The bits of a filled group that belong to no octet are not looked at, and behind a complete group any number of equals signs ends the text.
-/

namespace ParameterConfig
namespace Base64

/-- The letter of a six-bit value. -/
def letter (n : Nat) : Char :=
  if n < 26 then Char.ofNat ('A'.toNat + n)
  else if n < 52 then Char.ofNat ('a'.toNat + (n - 26))
  else if n < 62 then Char.ofNat ('0'.toNat + (n - 52))
  else if n = 62 then '+'
  else '/'

/-- The six-bit value of a letter. -/
def value? (c : Char) : Option Nat :=
  if 'A' ≤ c && c ≤ 'Z' then some (c.toNat - 'A'.toNat)
  else if 'a' ≤ c && c ≤ 'z' then some (c.toNat - 'a'.toNat + 26)
  else if '0' ≤ c && c ≤ '9' then some (c.toNat - '0'.toNat + 52)
  else if c = '+' then some 62
  else if c = '/' then some 63
  else none

def encode : List UInt8 → List Char
  | [] => []
  | [a] => [letter (a.toNat / 4), letter (a.toNat % 4 * 16), '=', '=']
  | [a, b] =>
    [letter (a.toNat / 4), letter (a.toNat % 4 * 16 + b.toNat / 16), letter (b.toNat % 16 * 4), '=']
  | a :: b :: c :: rest =>
    letter (a.toNat / 4) :: letter (a.toNat % 4 * 16 + b.toNat / 16) ::
      letter (b.toNat % 16 * 4 + c.toNat / 64) :: letter (c.toNat % 64) :: encode rest

/-- The one octet of a group with two letters. -/
def pair? (a b : Char) : Option (List UInt8) := do
  let a ← value? a
  let b ← value? b
  return [UInt8.ofNat (a * 4 + b / 16)]

/-- The two octets of a group with three letters. -/
def triple? (a b c : Char) : Option (List UInt8) := do
  let a ← value? a
  let b ← value? b
  let c ← value? c
  return [UInt8.ofNat (a * 4 + b / 16), UInt8.ofNat (b % 16 * 16 + c / 4)]

/-- The three octets of a complete group. -/
def quad? (a b c d : Char) : Option (List UInt8) := do
  let a ← value? a
  let b ← value? b
  let c ← value? c
  let d ← value? d
  return [UInt8.ofNat (a * 4 + b / 16), UInt8.ofNat (b % 16 * 16 + c / 4),
    UInt8.ofNat (c % 4 * 64 + d)]

def isFill (cs : List Char) : Bool :=
  cs.all (· = '=')

def decode? : List Char → Option (List UInt8)
  | [] => some []
  | a :: b :: c :: d :: rest =>
    if rest.isEmpty && d = '=' then
      if c = '=' then pair? a b else triple? a b c
    else do
      let octets ← quad? a b c d
      if isFill rest then return octets
      let more ← decode? rest
      return octets ++ more
  | _ => none

/-- The text with equals signs added up to a whole number of groups. -/
def filledUp (cs : List Char) : List Char :=
  cs ++ List.replicate ((4 - cs.length % 4) % 4) '='

end Base64
end ParameterConfig
