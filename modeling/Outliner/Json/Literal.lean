import Outliner.Json.Fault

/-!
String literals: as they are written, the text they stand for, and how a text is written.
-/
set_option autoImplicit false

namespace Outliner.Json

/-- One unit between the quotes of a string literal: a character, a backslash and a letter, or a code unit in
four hexadecimal digits. -/
inductive Piece where
  | plain (char : Char)
  | escaped (char : Char)
  | codeUnit (value : Nat)

inductive Literal.Ending where
  | closed
  | textEnds
  | control
  | badEscape
  | badHex
  deriving DecidableEq

/-- A string literal as written, up to its closing quote or to its first fault. -/
structure Literal where
  pieces : List Piece
  ending : Literal.Ending

namespace Literal

def hexDigit? (c : Char) : Option Nat :=
  if '0' ≤ c ∧ c ≤ '9' then some (c.toNat - '0'.toNat)
  else if 'a' ≤ c ∧ c ≤ 'f' then some (c.toNat - 'a'.toNat + 10)
  else if 'A' ≤ c ∧ c ≤ 'F' then some (c.toNat - 'A'.toNat + 10)
  else none

def hexUnit? (a b c d : Char) : Option Nat := do
  return ((← hexDigit? a) * 16 + (← hexDigit? b)) * 256 + ((← hexDigit? c) * 16 + (← hexDigit? d))

def unescape? : Char → Option Char
  | '"' => some '"'
  | '\\' => some '\\'
  | '/' => some '/'
  | 'b' => some '\x08'
  | 'f' => some '\x0c'
  | 'n' => some '\n'
  | 'r' => some '\r'
  | 't' => some '\t'
  | _ => none

def byteCount (s : List Char) : Nat :=
  s.foldl (fun total c => total + c.utf8Size) 0

/-- Reads a literal whose opening quote has been read, with the pieces already read in reverse, and
gives the text after it. -/
def scan (done : List Piece) : List Char → Literal × List Char
  | [] => (⟨done.reverse, .textEnds⟩, [])
  | '"' :: rest => (⟨done.reverse, .closed⟩, rest)
  | '\\' :: 'u' :: a :: b :: c :: d :: rest =>
    match hexUnit? a b c d with
    | some value => scan (.codeUnit value :: done) rest
    | none => (⟨done.reverse, .badHex⟩, [])
  | '\\' :: 'u' :: rest =>
    (⟨done.reverse, if byteCount rest < 4 then .textEnds else .badHex⟩, [])
  | '\\' :: letter :: rest =>
    match unescape? letter with
    | some char => scan (.escaped char :: done) rest
    | none => (⟨done.reverse, .badEscape⟩, [])
  | ['\\'] => (⟨done.reverse, .textEnds⟩, [])
  | char :: rest =>
    if char < ' ' then (⟨done.reverse, .control⟩, [])
    else scan (.plain char :: done) rest

theorem length_scan (done : List Piece) (s : List Char) : (scan done s).2.length ≤ s.length := by
  fun_induction scan done s <;> simp_all <;> omega

def Ending.fault? : Ending → Option Fault
  | .closed => none
  | .textEnds => some .endInString
  | .control => some .controlCharacter
  | .badEscape | .badHex => some .badEscape

def Ending.surrogateFault : Ending → Fault
  | .textEnds => .endInString
  | .badHex => .badEscape
  | .closed | .control | .badEscape => .cutSurrogate

def isLeading (value : Nat) : Bool :=
  0xd800 ≤ value && value ≤ 0xdbff

def isTrailing (value : Nat) : Bool :=
  0xdc00 ≤ value && value ≤ 0xdfff

def joinSurrogates (leading trailing : Nat) : Char :=
  Char.ofNat (0x10000 + (leading - 0xd800) * 0x400 + (trailing - 0xdc00))

/-- Decodes pieces after the text already decoded. Surrogates have to come in pairs. -/
def decode (out : String) (ending : Ending) : List Piece → Except Fault String
  | [] =>
    match ending.fault? with
    | some fault => .error fault
    | none => .ok out
  | .plain char :: rest => decode (out.push char) ending rest
  | .escaped char :: rest => decode (out.push char) ending rest
  | .codeUnit value :: rest =>
    if isTrailing value then .error .loneSurrogate
    else if isLeading value then
      match rest with
      | .codeUnit next :: rest =>
        if isTrailing next then decode (out.push (joinSurrogates value next)) ending rest
        else .error .loneSurrogate
      | .plain _ :: _ | .escaped _ :: _ => .error .cutSurrogate
      | [] => .error ending.surrogateFault
    else decode (out.push (Char.ofNat value)) ending rest

def value (literal : Literal) : Except Fault String :=
  decode "" literal.ending literal.pieces

/-- The verdict on a literal whose text is not asked for: surrogates are not looked at. -/
def skip (literal : Literal) : Except Fault Unit :=
  match literal.ending.fault? with
  | some fault => .error fault
  | none => .ok ()

end Literal

def escapeChar (c : Char) : String :=
  if c = '"' then "\\\""
  else if c = '\\' then "\\\\"
  else if c = '\x08' then "\\b"
  else if c = '\x0c' then "\\f"
  else if c = '\n' then "\\n"
  else if c = '\r' then "\\r"
  else if c = '\t' then "\\t"
  else if c < ' ' then "\\u00" ++ (if c.toNat < 16 then "0" else "") ++ Text.hex c.toNat
  else c.toString

def writeText (out : String) (s : String) : String :=
  (s.toList.foldl (fun out c => out ++ escapeChar c) (out ++ "\"")).push '"'

end Outliner.Json
