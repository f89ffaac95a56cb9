import Outliner.Json.Fault

/-!
JSON values. The members of an object keep their order, and a key may be repeated.
-/
set_option autoImplicit false

namespace Outliner

inductive Json where
  | null
  | bool (value : Bool)
  | num (value : Json.Number)
  | str (value : String)
  | arr (items : List Json)
  | obj (members : List (String × Json))

namespace Json

instance : Inhabited Json := ⟨.null⟩

def ofUInt32 (word : UInt32) : Json :=
  .num (.ofUInt32 word)

def found : Json → Found
  | .null => .null
  | .bool value => .bool value
  | .num value => .number value
  | .str value => .text value
  | .arr _ => .sequence
  | .obj _ => .map

mutual

/-- Whether two values agree, member by member in order. -/
def same : Json → Json → Bool
  | .null, .null => true
  | .bool a, .bool b => a == b
  | .num a, .num b => a.same b
  | .str a, .str b => a == b
  | .arr as, .arr bs => sameItems as bs
  | .obj as, .obj bs => sameMembers as bs
  | _, _ => false

def sameItems : List Json → List Json → Bool
  | [], [] => true
  | a :: as, b :: bs => same a b && sameItems as bs
  | _, _ => false

def sameMembers : List (String × Json) → List (String × Json) → Bool
  | [], [] => true
  | (k, a) :: as, (l, b) :: bs => k == l && same a b && sameMembers as bs
  | _, _ => false

end

end Json

end Outliner
