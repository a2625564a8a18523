/-!
# Decimal digits

Numerals in the ten digits of ASCII.
-/

namespace FallbackEnum

namespace Text

/-- The value of a decimal digit. -/
def digitValue (c : Char) : Nat := c.toNat - '0'.toNat

/-- The number that digits denote. -/
def ofDigits (cs : List Char) : Nat := cs.foldl (fun n c => n * 10 + digitValue c) 0

/-- The number that digits denote, if these are digits and not none. -/
def ofDigits? (cs : List Char) : Option Nat :=
  if cs.isEmpty || !cs.all Char.isDigit then none else some (ofDigits cs)

/-- The number that digits behind an optional sign denote. -/
def ofSignedDigits? (cs : List Char) : Option Int :=
  match cs with
  | '-' :: digits => (ofDigits? digits).map fun n => -(n : Int)
  | '+' :: digits => (ofDigits? digits).map Int.ofNat
  | digits => (ofDigits? digits).map Int.ofNat

/-- The decimal numeral of a natural number. -/
def numeral (n : Nat) : String := String.ofList (Nat.toDigits 10 n)

end Text

end FallbackEnum
