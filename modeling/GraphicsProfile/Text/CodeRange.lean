namespace GraphicsProfile.Text

/-- The first and the last code point of a range. -/
abbrev CodeRange := Nat × Nat

def inRanges (ranges : List CodeRange) (char : Char) : Bool :=
  ranges.any (fun range => range.1 ≤ char.toNat && char.toNat ≤ range.2)

end GraphicsProfile.Text
