import GraphicsProfile.Text.Encoding

/-!
Lines and columns. A line ends at a line feed, and both numbers count from what stands before the
place: the first byte of a text is behind line 1, column 0.
-/

namespace GraphicsProfile.Text

/-- A place in a text, reached after so many bytes of its current line. -/
structure Position where
  line : Nat
  column : Nat
  deriving DecidableEq

def lineFeed : UInt8 := 10

/-- The position reached after the given bytes. -/
def Position.after (read : List UInt8) : Position :=
  ⟨1 + read.count lineFeed, (read.reverse.takeWhile (· != lineFeed)).length⟩

end GraphicsProfile.Text
