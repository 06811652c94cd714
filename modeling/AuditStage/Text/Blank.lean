import AuditStage.Text.Ranges

/-! The blank characters: those with the Unicode property White_Space. -/

namespace AuditStage.Text

/-- Code points with the property White_Space, lowest first. -/
def blankRanges : List (Nat × Nat) :=
  -- Tab to carriage return, the space, next line, no-break space and the wider spaces.
  [(0x9, 0xD), (0x20, 0x20), (0x85, 0x85), (0xA0, 0xA0), (0x1680, 0x1680), (0x2000, 0x200A),
   (0x2028, 0x2029), (0x202F, 0x202F), (0x205F, 0x205F), (0x3000, 0x3000)]

/-- Whether a character is white space, which includes the no-break space but no zero-width
character. -/
def isBlank (c : Char) : Bool :=
  inRanges blankRanges c

end AuditStage.Text
