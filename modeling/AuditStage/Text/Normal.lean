import AuditStage.Text.CombiningClass
import AuditStage.Text.Decomposition

/-! The composed normal form of a text: one way of writing for each text that looks the same. -/

namespace AuditStage.Text

/-- A character put in front of a text, behind the marks that have to come before it. -/
def insertMark (c : Char) : List Char → List Char
  | [] => [c]
  | d :: rest =>
    -- Marks of equal class keep their order, and nothing passes a letter.
    if 0 < combiningClass d && combiningClass d < combiningClass c then d :: insertMark c rest
    else c :: d :: rest

/-- A text in its parts, with the marks on each letter in canonical order. -/
def decompose (cs : List Char) : List Char :=
  (cs.flatMap parts).foldr insertMark []

/-- The parts behind a letter put together with it, as far as no mark stands in the way. -/
def composeFrom (letter : Char) (between : List Char) : List Char → List Char
  | [] => letter :: between
  | c :: rest =>
    let height := combiningClass c
    let isBlocked := between.getLast?.any fun mark => height ≤ combiningClass mark
    match if isBlocked then none else whole? letter c with
    | some letter => composeFrom letter between rest
    | none =>
      if height = 0 then letter :: between ++ composeFrom c [] rest
      else composeFrom letter (between ++ [c]) rest

/-- A text put together from its parts. -/
def compose (cs : List Char) : List Char :=
  let isMark := fun c => 0 < combiningClass c
  -- Marks without a letter before them stay as they are.
  cs.takeWhile isMark ++
    match cs.dropWhile isMark with
    | [] => []
    | letter :: rest => composeFrom letter [] rest

/-- The composed normal form of a text. -/
def normal (cs : List Char) : List Char :=
  compose (decompose cs)

end AuditStage.Text
