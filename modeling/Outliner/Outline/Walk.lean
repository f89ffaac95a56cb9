import Outliner.Outline.Entry

/-!
Walks through outlines: search by label, depth, and the outline as indented text.

Every walk keeps the entries still to be visited in a list, so that the depth of an outline is bound
by nothing but memory.
-/
set_option autoImplicit false

namespace Outliner.Entry

/-- The first entry with a label, depth first, among entries still to be visited. -/
def findAmong (label : String) (stack : List Entry) : Option Entry :=
  match stack with
  | [] => none
  | entry :: rest =>
    if entry.label = label then some entry else findAmong label (entry.children ++ rest)
termination_by sizeAll stack
decreasing_by exact sizeAll_children_append_lt entry rest

def find? (entry : Entry) (label : String) : Option Entry :=
  findAmong label [entry]

def atDepth (depth : Nat) (entries : List Entry) : List (Entry × Nat) :=
  entries.map fun entry => (entry, depth)

private theorem map_fst_atDepth (depth : Nat) (entries : List Entry) :
    (atDepth depth entries).map (·.1) = entries := by
  simp [atDepth, Function.comp_def]

def sizeBelow (stack : List (Entry × Nat)) : Nat :=
  sizeAll (stack.map (·.1))

private theorem sizeBelow_children_lt (entry : Entry) (depth below : Nat) (rest : List (Entry × Nat)) :
    sizeBelow (atDepth below entry.children ++ rest) < sizeBelow ((entry, depth) :: rest) := by
  simp only [sizeBelow, List.map_append, map_fst_atDepth, List.map_cons]
  exact sizeAll_children_append_lt entry _

/-- The greatest depth among those met and those of the entries still to be visited and below. -/
def deepest (met : Nat) (stack : List (Entry × Nat)) : Nat :=
  match stack with
  | [] => met
  | (entry, depth) :: rest =>
    deepest (max met depth) (atDepth (depth + 1) entry.children ++ rest)
termination_by sizeBelow stack
decreasing_by exact sizeBelow_children_lt entry depth (depth + 1) rest

/-- The number of entries on the longest path downward. -/
def depth (entry : Entry) : Nat :=
  deepest 0 [(entry, 1)]

def maxIndent : Nat := 65535

/-- Writes the line of an entry after what is already written: two blanks for every level above it,
its label, and its diagnostic in brackets. -/
def writeLine (out : String) (depth : Nat) (entry : Entry) : String :=
  let indented := (2 * depth).repeat (fun out => out.push ' ') out
  let labelled := indented ++ entry.label
  match entry.diagnostic with
  | none => labelled.push '\n'
  | some diagnostic => labelled ++ "  [" ++ diagnostic ++ "]\n"

def writeLines? (out : String) (stack : List (Entry × Nat)) : Option String :=
  match stack with
  | [] => some out
  | (entry, depth) :: rest =>
    if maxIndent < 2 * depth then none
    else writeLines? (writeLine out depth entry) (atDepth (depth + 1) entry.children ++ rest)
termination_by sizeBelow stack
decreasing_by exact sizeBelow_children_lt entry depth (depth + 1) rest

/-- The outline as indented text, one entry to a line, if no line has to be indented too far. -/
def text? (entry : Entry) : Option String :=
  writeLines? "" [(entry, 0)]

end Outliner.Entry
