import Outliner.Json.Token

/-!
Drafts: JSON text as a tree, kept up to the first place where it stops being JSON.

Scanning never fails. Where the text goes wrong the tree ends in a part that says how, so that a
reader of the tree decides what to complain about first, and complains about nothing it never
reaches. The scanner holds the open lists and objects in frames and takes one token at a time.
-/
set_option autoImplicit false

namespace Outliner.Json

inductive Draft.ListEnd where
  | closed
  | textEnds
  | noComma
  -- A comma stands right before the bracket.
  | commaClose
  -- A comma stands right after the opening bracket, and maybe the closing bracket after it.
  | commaFirst (close : Bool)
  | broken
  deriving DecidableEq

inductive Draft.ObjectEnd where
  | closed
  | textEnds
  | noComma
  -- Something other than a string stands where a key is due.
  | noKey
  | commaClose
  -- The text ends after a comma.
  | commaEnd
  | broken
  deriving DecidableEq

/-- JSON text as a tree, with what is wrong in the place where it is wrong. -/
inductive Draft where
  | null
  | bool (value : Bool)
  | number (numeral : Numeral)
  | text (literal : Literal)
  | list (items : List Draft) (ending : Draft.ListEnd)
  | object (members : List (Literal × Draft)) (ending : Draft.ObjectEnd)
  -- The text ends where a value is due.
  | missing
  -- A character that begins no value stands where a value is due.
  | stray
  | cutWord (textEnds : Bool)
  | cutNumber (textEnds : Bool)
  -- No colon follows the key, because the text ends or because something else stands there.
  | noColon (textEnds : Bool)

namespace Draft

/-- An open list or object around the value that is being read; finished parts are in reverse. -/
inductive Frame where
  | list (items : List Draft)
  | member (members : List (Literal × Draft)) (key : Literal)

/-- What the scanner expects next. -/
inductive Due where
  | value
  | firstItem
  | commaFirst
  | nextItem (items : List Draft)
  | firstKey
  | nextKey (members : List (Literal × Draft))
  | colon (members : List (Literal × Draft)) (key : Literal)
  -- What the frame around a finished value expects.
  | after (value : Draft)

def Frame.cut (value : Draft) : Frame → Draft
  | .list items => .list (value :: items).reverse .broken
  | .member members key => .object ((key, value) :: members).reverse .broken

/-- Puts a value that breaks off into all frames around it. -/
def cut (frames : List Frame) (value : Draft) : Draft :=
  frames.foldl Frame.cut value

/-- A token taken, or the whole draft if the text goes wrong there. -/
inductive Step where
  | go (frames : List Frame) (due : Due)
  | stop (draft : Draft)

def begin (frames : List Frame) : Token → Step
  | .openList => .go frames .firstItem
  | .openObject => .go frames .firstKey
  | .null => .go frames (.after .null)
  | .bool value => .go frames (.after (.bool value))
  | .number numeral => .go frames (.after (.number numeral))
  | .text literal =>
    if literal.ending = .closed then .go frames (.after (.text literal))
    else .stop (cut frames (.text literal))
  | .cutWord textEnds => .stop (cut frames (.cutWord textEnds))
  | .cutNumber textEnds => .stop (cut frames (.cutNumber textEnds))
  | .closeList | .closeObject | .comma | .colon | .stray => .stop (cut frames .stray)

def beginMember (frames : List Frame) (members : List (Literal × Draft)) (key : Literal) : Step :=
  if key.ending = .closed then .go frames (.colon members key)
  else .stop (cut frames (.object ((key, .missing) :: members).reverse .broken))

def step (frames : List Frame) (due : Due) (token : Token) : Step :=
  match due with
  | .value => begin frames token
  | .firstItem =>
    match token with
    | .closeList => .go frames (.after (.list [] .closed))
    | .comma => .go frames .commaFirst
    | token => begin (.list [] :: frames) token
  | .commaFirst =>
    match token with
    | .closeList => .stop (cut frames (.list [] (.commaFirst true)))
    | _ => .stop (cut frames (.list [] (.commaFirst false)))
  | .nextItem items =>
    match token with
    | .closeList => .stop (cut frames (.list items.reverse .commaClose))
    | token => begin (.list items :: frames) token
  | .firstKey =>
    match token with
    | .closeObject => .go frames (.after (.object [] .closed))
    | .text key => beginMember frames [] key
    | _ => .stop (cut frames (.object [] .noKey))
  | .nextKey members =>
    match token with
    | .closeObject => .stop (cut frames (.object members.reverse .commaClose))
    | .text key => beginMember frames members key
    | _ => .stop (cut frames (.object members.reverse .noKey))
  | .colon members key =>
    match token with
    | .colon => .go (.member members key :: frames) .value
    | _ => .stop (cut frames (.object ((key, .noColon false) :: members).reverse .broken))
  | .after value =>
    match frames with
    | [] => .stop value
    | .list items :: frames =>
      match token with
      | .comma => .go frames (.nextItem (value :: items))
      | .closeList => .go frames (.after (.list (value :: items).reverse .closed))
      | _ => .stop (cut frames (.list (value :: items).reverse .noComma))
    | .member members key :: frames =>
      match token with
      | .comma => .go frames (.nextKey ((key, value) :: members))
      | .closeObject => .go frames (.after (.object ((key, value) :: members).reverse .closed))
      | _ => .stop (cut frames (.object ((key, value) :: members).reverse .noComma))

def finish (frames : List Frame) : Due → Draft
  | .value => cut frames .missing
  | .firstItem => cut frames (.list [] .textEnds)
  | .commaFirst => cut frames (.list [] (.commaFirst false))
  | .nextItem items => cut frames (.list (.missing :: items).reverse .broken)
  | .firstKey => cut frames (.object [] .textEnds)
  | .nextKey members => cut frames (.object members.reverse .commaEnd)
  | .colon members key => cut frames (.object ((key, .noColon true) :: members).reverse .broken)
  | .after value =>
    match frames with
    | [] => value
    | .list items :: frames => cut frames (.list (value :: items).reverse .textEnds)
    | .member members key :: frames =>
      cut frames (.object ((key, value) :: members).reverse .textEnds)

set_option linter.unusedVariables false in
/-- Scans one value, and tells whether anything but blanks follows it. -/
def scan (frames : List Frame) (due : Due) (s : List Char) : Draft × Bool :=
  match h : Token.next? s with
  | none => (finish frames due, false)
  | some (token, rest) =>
    match step frames due token with
    | .go frames due => scan frames due rest
    | .stop draft => (draft, true)
termination_by s.length
decreasing_by exact Token.length_next? h

def ofText (s : String) : Draft × Bool :=
  scan [] .value s.toList

end Draft

end Outliner.Json
