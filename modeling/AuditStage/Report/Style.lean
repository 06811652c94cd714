/-! Text drawn in colour on a terminal. -/

namespace AuditStage

/-- How a text is drawn: the numbers that a terminal knows the style and the colour by. -/
structure Style where
  codes : List Nat
deriving Repr, DecidableEq

namespace Style

/-- Bold text in the terminal's own colour. -/
def bold : Style := ⟨[1]⟩
/-- Faint text in the terminal's own colour. -/
def dimmed : Style := ⟨[2]⟩
/-- Red text. -/
def red : Style := ⟨[31]⟩
/-- Green text. -/
def green : Style := ⟨[32]⟩
/-- Yellow text. -/
def yellow : Style := ⟨[33]⟩
/-- Cyan text. -/
def cyan : Style := ⟨[36]⟩
/-- White text. -/
def white : Style := ⟨[37]⟩
/-- Bold green text. -/
def boldGreen : Style := ⟨[1, 32]⟩
/-- Bold yellow text. -/
def boldYellow : Style := ⟨[1, 33]⟩
/-- Bold cyan text. -/
def boldCyan : Style := ⟨[1, 36]⟩
/-- Faint red text. -/
def dimmedRed : Style := ⟨[2, 31]⟩

/-- The code that begins a style. -/
def opening (style : Style) : List Char :=
  '\x1b' :: '[' :: (";".intercalate (style.codes.map toString)).toList ++ ['m']

/-- The code that ends every style. -/
def closing : List Char :=
  "\x1b[0m".toList

/-- A text in which the style begins anew after each code that ends it. -/
def reopen (style : Style) : List Char → List Char
  | '\x1b' :: '[' :: '0' :: 'm' :: rest => closing ++ style.opening ++ reopen style rest
  | c :: rest => c :: reopen style rest
  | [] => []

/-- A text in a style, if colours are wanted. -/
def paint (style : Style) (colored : Bool) (text : String) : String :=
  if colored then String.ofList (style.opening ++ style.reopen text.toList ++ closing) else text

end Style

end AuditStage
