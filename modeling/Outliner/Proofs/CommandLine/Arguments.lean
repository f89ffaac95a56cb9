import Outliner.CommandLine.Options

/-!
Arguments: what the words of a command line ask for, in whatever order they stand.

A word is the path, or an option with its value, which is joined to it by an equals sign or follows it as an
argument of its own. Ids and paths come with the proof that they are what they should be. Main statement: a
command line with one path, and with a format and a strictness given at most once, is read as a request for
just what its words say, with all selected nodes and all highlighted nodes in order.
-/
set_option autoImplicit false

namespace Outliner.CommandLine

def Format.name : Format → String
  | .text => "text"
  | .json => "json"

structure IdText where
  text : String
  id : NodeId
  reads : NodeId.ofText? text = some id

/-- A path that can stand as an argument of its own: it does not begin with a dash, unless it is nothing
but a dash. -/
structure PathText where
  text : String
  given : text ≠ ""
  noOption : text = "-" ∨ text.toList.head? ≠ some '-'

/-- A part of a command line that says one thing. -/
inductive Word where
  | path (path : PathText)
  | format (format : Format) (joined : Bool)
  | select (node : IdText) (joined : Bool)
  | highlight (node : IdText) (joined : Bool)
  | strict

def withValue (name value : String) (joined : Bool) : List String :=
  if joined then ["--" ++ name ++ "=" ++ value] else ["--" ++ name, value]

namespace Word

/-- The arguments as which a word is written. -/
def arguments : Word → List String
  | .path given => [given.text]
  | .format chosen joined => withValue "format" chosen.name joined
  | .select node joined => withValue "select" node.text joined
  | .highlight node joined => withValue "highlight" node.text joined
  | .strict => ["--strict"]

def path? : Word → Option String
  | .path given => some given.text
  | .format .. | .select .. | .highlight .. | .strict => none

def format? : Word → Option Format
  | .format chosen _ => some chosen
  | .path _ | .select .. | .highlight .. | .strict => none

def isStrict : Word → Bool
  | .strict => true
  | .path _ | .format .. | .select .. | .highlight .. => false

end Word

namespace Given

def add (given : Given) : Word → Given
  | .path path => { given with path := some path.text }
  | .format format _ => { given with format := some format }
  | .select node _ => { given with select := node.id :: given.select }
  | .highlight node _ => { given with highlight := node.id :: given.highlight }
  | .strict => { given with strict := true }

/-- The word gives nothing that may be given only once and has been given already. -/
def Fits (given : Given) : Word → Prop
  | .path _ => given.path = none
  | .format .. => given.format = none
  | .strict => given.strict = false
  | .select .. | .highlight .. => True

structure FitsAll (given : Given) (words : List Word) : Prop where
  path : (given.path.toList ++ words.filterMap Word.path?).length ≤ 1
  format : (given.format.toList ++ words.filterMap Word.format?).length ≤ 1
  strict : given.strict.toNat + words.countP Word.isStrict ≤ 1

section

variable {given : Given} {word : Word} {words : List Word}

private theorem path_add (fits : given.Fits word) :
    (given.add word).path.toList = given.path.toList ++ word.path?.toList := by
  cases word with
  | path =>
    have none : given.path = none := fits
    simp [add, Word.path?, none]
  | _ => simp [add, Word.path?]

private theorem format_add (fits : given.Fits word) :
    (given.add word).format.toList = given.format.toList ++ word.format?.toList := by
  cases word with
  | format =>
    have none : given.format = none := fits
    simp [add, Word.format?, none]
  | _ => simp [add, Word.format?]

private theorem strict_add (fits : given.Fits word) :
    (given.add word).strict.toNat = given.strict.toNat + word.isStrict.toNat := by
  cases word with
  | strict =>
    have lax : given.strict = false := fits
    simp [add, Word.isStrict, lax]
  | _ => simp [add, Word.isStrict]

private theorem filterMap_cons_eq_append {α : Type} (read? : Word → Option α) (word : Word)
    (words : List Word) :
    (word :: words).filterMap read? = (read? word).toList ++ words.filterMap read? := by
  rw [List.filterMap_cons]
  cases read? word <;> rfl

private theorem countP_cons_eq_add (word : Word) (words : List Word) :
    (word :: words).countP Word.isStrict = word.isStrict.toNat + words.countP Word.isStrict := by
  rw [List.countP_cons, Nat.add_comm]
  cases word.isStrict <;> rfl

private theorem FitsAll.fits (all : given.FitsAll (word :: words)) : given.Fits word := by
  obtain ⟨path, format, strict⟩ := all
  rw [filterMap_cons_eq_append] at path format
  rw [countP_cons_eq_add] at strict
  cases word with
  | path =>
    cases held : given.path with
    | none => exact held
    | some => simp [held, Word.path?] at path
  | format =>
    cases held : given.format with
    | none => exact held
    | some => simp [held, Word.format?] at format
  | strict =>
    cases held : given.strict with
    | false => exact held
    | true =>
      simp only [held, Word.isStrict, Bool.toNat_true] at strict
      omega
  | select | highlight => trivial

private theorem FitsAll.tail (all : given.FitsAll (word :: words)) : (given.add word).FitsAll words := by
  have fits := all.fits
  obtain ⟨path, format, strict⟩ := all
  rw [filterMap_cons_eq_append, ← List.append_assoc] at path format
  rw [countP_cons_eq_add, ← Nat.add_assoc] at strict
  constructor
  · rw [path_add fits]
    exact path
  · rw [format_add fits]
    exact format
  · rw [strict_add fits]
    exact strict

end

end Given

end Outliner.CommandLine
