import Combinatory.Number.Power

/-!
# Outlines drawn with box characters

An outline is a labelled tree. It is drawn one label per line: the root's label first, then
each child below it behind a branch, `├── ` for every child but the last and `└── ` for the
last, the lines of a child's own children indented by `│   ` or by blanks accordingly.
-/

namespace Combinatory

/-- A labelled tree. -/
inductive Outline where
  | node (label : String) (children : List Outline)
  deriving Inhabited

namespace Outline

mutual

/-- The lines of one branch below prefix `pfx`; `last` marks the last child. -/
def branch : Outline → String → Bool → List String
  | .node label children, pfx, last =>
    let connector := if last then "└── " else "├── "
    let indent := if last then "    " else "│   "
    (pfx ++ connector ++ label) :: branches children (pfx ++ indent)

/-- The lines of a list of children below prefix `pfx`. -/
def branches : List Outline → String → List String
  | [], _ => []
  | [c], pfx => branch c pfx true
  | c :: d :: rest, pfx => branch c pfx false ++ branches (d :: rest) pfx

end

/-- The lines of an outline: its label, then its children. -/
def lines : Outline → List String
  | .node label children => label :: branches children ""

/-- An outline drawn as text, each line ended by a line feed. -/
def render (o : Outline) : String := String.join (o.lines.map (· ++ "\n"))

end Outline

end Combinatory
