import GraphicsProfile.Decimal.Shortest

namespace GraphicsProfile.Decimal

structure Style where
  /-- The least exponent of a leading digit that is written positionally. -/
  lowest : Int
  highest : Int
  markWhole : Bool
  plusSign : Bool

def messageStyle : Style := ⟨-5, 15, true, true⟩

def pointed (markWhole : Bool) (digits : List Char) (whole : Nat) : List Char :=
  let front := digits.take whole ++ List.replicate (whole - digits.length) '0'
  match digits.drop whole with
  | [] => if markWhole then front ++ ['.', '0'] else front
  | back => front ++ '.' :: back

def Style.exponent (style : Style) (exponent : Int) : List Char :=
  'e' :: (if exponent < 0 then ['-'] else if style.plusSign then ['+'] else []) ++
    Nat.toDigits 10 exponent.natAbs

/-- Writes `digits * 10 ^ exponent`, where the last digit is not zero. -/
def Style.write (style : Style) (number : Scaled) : List Char :=
  let digits := Nat.toDigits 10 number.digits
  let leading := number.exponent + digits.length - 1
  if leading < style.lowest ∨ style.highest < leading then
    pointed false digits 1 ++ style.exponent leading
  else if leading < 0 then
    '0' :: '.' :: List.replicate (-leading - 1).toNat '0' ++ digits
  else
    pointed style.markWhole digits (leading.toNat + 1)

/-- A finite number in the style of messages. Zero keeps its sign. -/
def showFloat (value : Float) : String :=
  let sign := if value.toBits.toNat < 0x8000000000000000 then [] else ['-']
  let binary := Binary.ofFloat value
  let text := if binary.significand = 0 then ['0', '.', '0'] else messageStyle.write binary.shortest
  String.ofList (sign ++ text)

end GraphicsProfile.Decimal
