/-!
# Numerals

How numbers are written in log lines and descriptions.
-/

namespace SharedMemory

namespace Text

/-- Decimal digits, behind a minus sign if the number is negative. -/
def decimal (n : Int) : String :=
  (if n < 0 then "-" else "") ++ String.ofList (Nat.toDigits 10 n.natAbs)

/-- Lower-case hexadecimal digits behind `0x`. -/
def hex (n : Nat) : String := "0x" ++ String.ofList (Nat.toDigits 16 n)

/-- Octal digits behind `0o`. -/
def octal (n : Nat) : String := "0o" ++ String.ofList (Nat.toDigits 8 n)

/-- Decimal digits, filled up with zeros behind the sign to at least `width`
characters, the sign counted. -/
def zeroPadded (width : Nat) (n : Int) : String :=
  let digits := Nat.toDigits 10 n.natAbs
  let sign := if n < 0 then ['-'] else []
  String.ofList (sign ++ List.replicate (width - sign.length - digits.length) '0' ++ digits)

/-- A virtual address. -/
def virtualAddress (a : Nat) : String := "VA:" ++ hex a

/-- A physical address. -/
def physicalAddress (a : Nat) : String := "PA:" ++ hex a

end Text

end SharedMemory
