import Outliner.Json.Decode
import Outliner.Proofs.Json.Canonical
import Outliner.Proofs.Json.Record
import Outliner.Proofs.Json.Scanning

/-!
Depth: how many lists and objects are nested in a value. The draft of a value is read as that value
exactly if the depth is within the limit, and it is passed over whatever its depth. Whatever text is read,
the value is not nested more deeply than the limit allows, and no more so in its canonical form.
-/
set_option autoImplicit false

namespace Outliner.Json

mutual

/-- How many lists and objects are nested in a value. -/
def depth : Json → Nat
  | .arr items => depthItems items + 1
  | .obj members => depthMembers members + 1
  | _ => 0

def depthItems : List Json → Nat
  | [] => 0
  | item :: rest => max item.depth (depthItems rest)

def depthMembers : List (String × Json) → Nat
  | [] => 0
  | (_, value) :: rest => max value.depth (depthMembers rest)

end

theorem depthItems_le_iff {items : List Json} {levels : Nat} :
    depthItems items ≤ levels ↔ ∀ item ∈ items, item.depth ≤ levels := by
  induction items with
  | nil => simp [depthItems]
  | cons item rest ih => simp [depthItems, ih]

theorem depthMembers_le_iff {members : List (String × Json)} {levels : Nat} :
    depthMembers members ≤ levels ↔ ∀ member ∈ members, member.2.depth ≤ levels := by
  induction members with
  | nil => simp [depthMembers]
  | cons member rest ih => simp [depthMembers, ih]

mutual

theorem depth_canonical_le : (value : Json) → value.canonical.depth ≤ value.depth
  | .null | .bool _ | .num _ | .str _ => Nat.le_refl 0
  | .arr items => by
    rw [canonical, depth, depth]
    exact Nat.succ_le_succ (depthItems_canonicalItems_le items)
  | .obj members => by
    rw [canonical, depth, depth]
    refine Nat.succ_le_succ (depthMembers_le_iff.mpr fun member inside => ?_)
    -- Sorting drops members whose keys are repeated and adds none.
    have kept := depthMembers_le_iff.mp (Nat.le_refl (depthMembers (canonicalMembers members)))
    exact Nat.le_trans (kept member (mem_of_mem_sortMembers inside))
      (depthMembers_canonicalMembers_le members)

private theorem depthItems_canonicalItems_le : (items : List Json) →
    depthItems (canonicalItems items) ≤ depthItems items
  | [] => Nat.le_refl 0
  | item :: rest => by
    rw [canonicalItems, depthItems, depthItems]
    exact max_le_max (depth_canonical_le item) (depthItems_canonicalItems_le rest)

private theorem depthMembers_canonicalMembers_le : (members : List (String × Json)) →
    depthMembers (canonicalMembers members) ≤ depthMembers members
  | [] => Nat.le_refl 0
  | (_, value) :: rest => by
    rw [canonicalMembers, depthMembers, depthMembers]
    exact max_le_max (depth_canonical_le value) (depthMembers_canonicalMembers_le rest)

end

namespace Draft

/-- What is read within a limit: the value, if it is not nested too deeply. -/
def within {α : Type} (depth levels : Nat) (value : α) : Except Fault α :=
  if depth ≤ levels then .ok value else .error .tooDeep

private theorem within_succ {α β : Type} (make : α → β) (depth levels : Nat) (value : α) :
    (within depth levels value).map make = within (depth + 1) (levels + 1) (make value) := by
  unfold within
  by_cases fits : depth ≤ levels
  · rw [if_pos fits, if_pos (Nat.succ_le_succ fits)]
    rfl
  · rw [if_neg fits, if_neg (by omega)]
    rfl

mutual

theorem read_draft (levels : Nat) : (value : Json) → value.FloatFree →
    read levels value.draft = within value.depth levels value
  | .null, _ => rfl
  | .bool _, _ => rfl
  | .num (.int value inRange), _ => by
    simp only [draft, read, readNumber, Numeral.value?_ofInt value inRange]
    rfl
  | .num (.float _), free => by cases free
  | .str value, _ => by
    rw [draft, read, Literal.value_ofText]
    rfl
  | .arr items, free => by
    rw [draft, depth]
    cases levels with
    | zero => rfl
    | succ levels => rw [read, readItems_draftItems levels [] items free, within_succ]; rfl
  | .obj members, free => by
    rw [draft, depth]
    cases levels with
    | zero => rfl
    | succ levels => rw [read, readMembers_draftMembers levels [] members free, within_succ]; rfl

private theorem readItems_draftItems (levels : Nat) (done : List Json) : (items : List Json) →
    FloatFreeItems items → readItems levels .closed done (draftItems items) =
      within (depthItems items) levels (done.reverse ++ items)
  | [], _ => by simp [draftItems, readItems, depthItems, within, ListEnd.more, Except.map]
  | item :: rest, free => by
    rw [draftItems, readItems, read_draft levels item free.1, depthItems]
    unfold within
    by_cases fits : item.depth ≤ levels
    · rw [if_pos fits]
      dsimp only
      rw [readItems_draftItems levels (item :: done) rest free.2]
      simp [within, fits]
    · rw [if_neg fits, if_neg (by omega)]

theorem readMembers_draftMembers (levels : Nat) (done : List (String × Json)) :
    (members : List (String × Json)) → FloatFreeMembers members →
      readMembers levels .closed done (draftMembers members) =
        within (depthMembers members) levels (done.reverse ++ members)
  | [], _ => by simp [draftMembers, readMembers, depthMembers, within, ObjectEnd.close, Except.map]
  | (key, value) :: rest, free => by
    rw [draftMembers, readMembers, Literal.value_ofText, read_draft levels value free.1, depthMembers]
    unfold within
    by_cases fits : value.depth ≤ levels
    · rw [if_pos fits]
      dsimp only
      rw [readMembers_draftMembers levels ((key, value) :: done) rest free.2]
      simp [within, fits]
    · rw [if_neg fits, if_neg (by omega)]

end

mutual

theorem skip_draft : (value : Json) → value.draft.skip = .ok ()
  | .null | .bool _ | .num (.int _ _) | .num (.float _) => rfl
  | .str value => by rw [draft, skip, Literal.skip_ofText]
  | .arr items => by rw [draft, skip, skipItems_draftItems items]
  | .obj members => by rw [draft, skip, skipMembers_draftMembers members]

private theorem skipItems_draftItems : (items : List Json) → skipItems .closed (draftItems items) = .ok ()
  | [] => rfl
  | item :: rest => by
    rw [draftItems, skipItems, skip_draft item]
    exact skipItems_draftItems rest

private theorem skipMembers_draftMembers : (members : List (String × Json)) →
    skipMembers .closed (draftMembers members) = .ok ()
  | [] => rfl
  | (key, value) :: rest => by
    rw [draftMembers, skipMembers, Literal.skip_ofText, skip_draft value]
    exact skipMembers_draftMembers rest

end

mutual

private theorem depth_read_le {levels : Nat} : {draft : Draft} → {value : Json} →
    read levels draft = .ok value → value.depth ≤ levels
  | .null, _, done | .bool _, _, done => by
    obtain rfl := Except.ok.inj done
    exact Nat.zero_le levels
  | .number _, _, done | .text _, _, done => by
    obtain ⟨_, _, rfl⟩ := map_eq_ok_iff.mp done
    exact Nat.zero_le levels
  | .list items ending, value, done => by
    cases levels with
    | zero => cases done
    | succ levels =>
      obtain ⟨values, reads, rfl⟩ := map_eq_ok_iff.mp done
      refine Nat.succ_le_succ (depthItems_le_iff.mpr ?_)
      exact depth_readItems_le reads (fun item inside => nomatch inside)
  | .object members ending, value, done => by
    cases levels with
    | zero => cases done
    | succ levels =>
      obtain ⟨values, reads, rfl⟩ := map_eq_ok_iff.mp done
      refine Nat.succ_le_succ (depthMembers_le_iff.mpr ?_)
      exact depth_readMembers_le reads (fun item inside => nomatch inside)
  | .missing, _, done | .stray, _, done | .cutWord _, _, done | .cutNumber _, _, done
  | .noColon _, _, done => nomatch done

private theorem depth_readItems_le {levels : Nat} {ending : ListEnd} {done values : List Json} :
    {items : List Draft} → readItems levels ending done items = .ok values →
      (∀ item ∈ done, item.depth ≤ levels) → ∀ item ∈ values, item.depth ≤ levels
  | [], read, shallow => by
    obtain ⟨_, _, rfl⟩ := map_eq_ok_iff.mp read
    exact fun item inside => shallow item (List.mem_reverse.mp inside)
  | item :: rest, read, shallow => by
    rw [readItems] at read
    split at read
    · rename_i value first
      exact depth_readItems_le read (List.forall_mem_cons.mpr ⟨depth_read_le first, shallow⟩)
    · cases read

theorem depth_readMembers_le {levels : Nat} {ending : ObjectEnd} {done values : List (String × Json)} :
    {members : List (Literal × Draft)} → readMembers levels ending done members = .ok values →
      (∀ member ∈ done, member.2.depth ≤ levels) → ∀ member ∈ values, member.2.depth ≤ levels
  | [], read, shallow => by
    obtain ⟨_, _, rfl⟩ := map_eq_ok_iff.mp read
    exact fun member inside => shallow member (List.mem_reverse.mp inside)
  | (key, value) :: rest, read, shallow => by
    rw [readMembers] at read
    split at read
    · cases read
    · split at read
      · rename_i value first
        exact depth_readMembers_le read (List.forall_mem_cons.mpr ⟨depth_read_le first, shallow⟩)
      · cases read

end

end Draft

end Outliner.Json
