import Outliner.Json.Tagged
import Outliner.Proofs.Json.View

/-!
Tagged data in any order. The tag may stand anywhere among the members, and what stands before it is set
aside until the variant is known. Main statement: an object is read as a message if its members are those of
the message and others of other names, in whatever order, and whatever the text of the object looks like.
-/
set_option autoImplicit false

namespace Outliner.Json

def Draft.ReadsMember (levels : Nat) (draft : Literal × Draft) (member : String × Json) : Prop :=
  draft.1.value = .ok member.1 ∧ draft.2.read levels = .ok member.2

private theorem Draft.readsMembers_of_readMembers {levels : Nat} {ending : ObjectEnd}
    {drafts : List (Literal × Draft)} {done members : List (String × Json)}
    (read : readMembers levels ending done drafts = .ok members) :
    ending.close = .ok () ∧ ∃ rest, members = done.reverse ++ rest ∧
      List.Forall₂ (ReadsMember levels) drafts rest := by
  induction drafts generalizing done with
  | nil =>
    obtain ⟨closed, ends, rfl⟩ := map_eq_ok_iff.mp read
    exact ⟨ends, [], (List.append_nil _).symm, .nil⟩
  | cons draft drafts ih =>
    rw [readMembers] at read
    split at read
    · cases read
    · rename_i key key_read
      split at read
      · rename_i value value_read
        obtain ⟨ends, rest, rfl, reads⟩ := ih read
        refine ⟨ends, (key, value) :: rest, ?_, .cons ⟨key_read, value_read⟩ reads⟩
        rw [List.reverse_cons, List.append_assoc]
        rfl
      · cases read

private theorem readText_eq_ok_iff {α : Type} {text : String} {read : Draft → Except Fault α} {value : α} :
    readText text read = .ok value ↔
      ∃ draft, Draft.ofText text = (draft, false) ∧ read draft = .ok value := by
  rw [readText]
  obtain ⟨draft, trailing⟩ := Draft.ofText text
  cases trailing with
  | true =>
    refine iff_of_false (fun done => ?_) (by rintro ⟨_, ⟨⟩, _⟩)
    obtain ⟨_, _, ended⟩ := bind_eq_ok_iff.mp done
    cases ended
  | false =>
    show (read draft >>= fun value => pure value) = .ok value ↔ _
    rw [bind_pure]
    constructor
    · intro done
      exact ⟨draft, rfl, done⟩
    · rintro ⟨_, ⟨⟩, done⟩
      exact done

private theorem Draft.readsMembers_of_read {levels : Nat} {draft : Draft} {members : List (String × Json)}
    (read : draft.read (levels + 1) = .ok (.obj members)) :
    ∃ drafts ending, draft = .object drafts ending ∧ ending.close = .ok () ∧
      List.Forall₂ (ReadsMember levels) drafts members := by
  cases draft with
  | object drafts ending =>
    obtain ⟨found, reads, equal⟩ := map_eq_ok_iff.mp read
    obtain rfl := Json.obj.inj equal
    obtain ⟨ends, rest, rfl, reads⟩ := readsMembers_of_readMembers reads
    exact ⟨drafts, ending, rfl, ends, reads⟩
  | number | text | list =>
    obtain ⟨_, _, equal⟩ := map_eq_ok_iff.mp read
    cases equal
  | null | bool => cases Except.ok.inj read
  | missing | stray | cutWord | cutNumber | noColon => cases read

namespace Tagged

variable {α : Type} (tagged : Tagged α)

private theorem variant_of_read {levels : Nat} {draft : Draft} {name : String} {shape : Shape α}
    (read : draft.read levels = .ok (.str name)) (listed : tagged.variants.lookup name = some shape) :
    tagged.variant draft = .ok shape := by
  cases draft with
  | text literal =>
    obtain ⟨text, value, equal⟩ := map_eq_ok_iff.mp read
    obtain rfl := Json.str.inj equal
    rw [variant, value]
    dsimp only
    rw [listed]
  | number =>
    obtain ⟨_, _, equal⟩ := map_eq_ok_iff.mp read
    cases equal
  | list | object =>
    cases levels with
    | zero => cases read
    | succ levels =>
      obtain ⟨_, _, equal⟩ := map_eq_ok_iff.mp read
      cases equal
  | null | bool => cases Except.ok.inj read
  | missing | stray | cutWord | cutNumber | noColon => cases read

variable {levels : Nat} {ending : Draft.ObjectEnd} {shape : Shape α}

private theorem readMembers_nil (ends : ending.close = .ok ()) (aside : List (String × Json)) :
    tagged.readMembers levels ending (some shape) aside [] = shape.ofBuffer (.obj aside.reverse) := by
  unfold readMembers
  rw [ends]

private theorem readMembers_aside {draft : Literal × Draft} {member : String × Json}
    (reads : Draft.ReadsMember levels draft member) (other : member.1 ≠ tagged.tag)
    (shape? : Option (Shape α)) (aside : List (String × Json)) (drafts : List (Literal × Draft)) :
    tagged.readMembers levels ending shape? aside (draft :: drafts) =
      tagged.readMembers levels ending shape? (member :: aside) drafts := by
  conv_lhs => unfold readMembers
  rw [reads.1, reads.2]
  exact if_neg other

private theorem readMembers_tag {draft : Literal × Draft} {name : String}
    (reads : Draft.ReadsMember levels draft (tagged.tag, .str name))
    (listed : tagged.variants.lookup name = some shape) (aside : List (String × Json))
    (drafts : List (Literal × Draft)) :
    tagged.readMembers levels ending none aside (draft :: drafts) =
      tagged.readMembers levels ending (some shape) aside drafts := by
  conv_lhs => unfold readMembers
  rw [reads.1, tagged.variant_of_read reads.2 listed]
  exact if_pos rfl

private theorem readMembers_of_met (ends : ending.close = .ok ()) {drafts : List (Literal × Draft)}
    {members : List (String × Json)} (reads : List.Forall₂ (Draft.ReadsMember levels) drafts members)
    (untagged : under members tagged.tag = []) (aside : List (String × Json)) :
    tagged.readMembers levels ending (some shape) aside drafts =
      shape.ofBuffer (.obj (aside.reverse ++ members)) := by
  induction reads generalizing aside with
  | nil => rw [tagged.readMembers_nil ends, List.append_nil]
  | @cons draft member drafts members first rest ih =>
    obtain ⟨key, value⟩ := member
    have other : key ≠ tagged.tag := by
      rintro rfl
      rw [under_cons_self] at untagged
      cases untagged
    rw [under_cons_of_ne other] at untagged
    rw [tagged.readMembers_aside first other, ih untagged, List.reverse_cons, List.append_assoc]
    rfl

private theorem readMembers_of_unmet (ends : ending.close = .ok ()) {name : String}
    (listed : tagged.variants.lookup name = some shape) {drafts : List (Literal × Draft)}
    {members : List (String × Json)} (reads : List.Forall₂ (Draft.ReadsMember levels) drafts members)
    (once : under members tagged.tag = [.str name]) (aside : List (String × Json)) :
    tagged.readMembers levels ending none aside drafts =
      shape.ofBuffer (.obj (aside.reverse ++ members.filter fun member => member.1 ≠ tagged.tag)) := by
  induction reads generalizing aside with
  | nil => cases once
  | @cons draft member drafts members first rest ih =>
    obtain ⟨key, value⟩ := member
    by_cases same : key = tagged.tag
    · subst same
      rw [under_cons_self] at once
      obtain ⟨rfl, untagged⟩ := List.cons.inj once
      have kept : members.filter (fun member => member.1 ≠ tagged.tag) = members := by
        refine List.filter_eq_self.mpr fun member inside => decide_eq_true ?_
        intro repeated
        exact under_eq_nil_iff.mp untagged (List.mem_map.mpr ⟨member, inside, repeated⟩)
      rw [tagged.readMembers_tag first listed, tagged.readMembers_of_met ends rest untagged,
        List.filter_cons_of_neg (by simp), kept]
    · rw [under_cons_of_ne same] at once
      rw [tagged.readMembers_aside first same, ih once, List.filter_cons_of_pos (by simpa using same),
        List.reverse_cons, List.append_assoc]
      rfl

private theorem ofText_of_readText {text : String} {members : List (String × Json)} {name : String}
    (read : readText text (Draft.read Draft.maxLevels) = .ok (.obj members))
    (listed : tagged.variants.lookup name = some shape)
    (once : under members tagged.tag = [.str name]) :
    tagged.ofText text =
      shape.ofBuffer (.obj (members.filter fun member => member.1 ≠ tagged.tag)) := by
  obtain ⟨draft, scanned, read⟩ := readText_eq_ok_iff.mp read
  obtain ⟨drafts, ending, rfl, ends, reads⟩ := Draft.readsMembers_of_read read
  have run : tagged.ofText text = tagged.readMembers 126 ending none [] drafts := by
    rw [ofText, readText, scanned]
    exact bind_pure _
  rw [run]
  exact tagged.readMembers_of_unmet ends listed reads once []

end Tagged

/-- A message that is written with some members is written in one line and read from it, and it is read from
every text of an object that has these members, and maybe further ones of other names, in any order. -/
structure Tagged.Carries {α : Type} (tagged : Tagged α) (own : List (String × Json)) (message : α) :
    Prop where
  oneLine : '\n' ∉ (Json.obj own).compact.toList ∧ '\r' ∉ (Json.obj own).compact.toList
  decodes : tagged.ofText (Json.obj own).compact = .ok message
  anyText : ∀ (text : String) (members further : List (String × Json)), members.Perm (own ++ further) →
    (∀ member ∈ further, member.1 ∉ own.map (·.1)) →
    readText text (Draft.read Draft.maxLevels) = .ok (.obj members) → tagged.ofText text = .ok message
  anyOrder : ∀ (layout : Layout) (members further : List (String × Json)), members.Perm (own ++ further) →
    (∀ member ∈ further, member.1 ∉ own.map (·.1) ∧ member.2.FloatFree) →
    (Json.obj members).depth ≤ 127 → tagged.ofText (layout.text (.obj members)) = .ok message

private theorem readText_text (layout : Layout) {value : Json} (free : value.FloatFree)
    (shallow : value.depth ≤ Draft.maxLevels) :
    readText (layout.text value) (Draft.read Draft.maxLevels) = .ok value := by
  rw [readText, Draft.ofText_text]
  show (Draft.read Draft.maxLevels value.draft >>= fun value => pure value) = _
  rw [bind_pure, Draft.read_draft _ value free, Draft.within, if_pos shallow]

section

variable {α : Type} {name title : String} {fields : Fields α}
  {own members further : List (String × Json)} {message : α}

private theorem under_eq_of_perm (perm : members.Perm (own ++ further)) (nodup : (own.map (·.1)).Nodup)
    (foreign : ∀ member ∈ further, member.1 ∉ own.map (·.1)) {key : String}
    (listed : key ∈ own.map (·.1)) : under members key = under own key := by
  have same : (under members key).Perm (under own key) := by
    refine under_perm_of_foreign perm fun member inside => ?_
    rintro rfl
    exact foreign member inside listed
  exact eq_of_perm_of_length_le_one same (length_under_le_one nodup key)

private theorem floatFree_of_perm (perm : members.Perm (own ++ further)) (own_free : FloatFreeMembers own)
    (free : ∀ member ∈ further, member.2.FloatFree) : (Json.obj members).FloatFree := by
  refine floatFreeMembers_iff.mpr fun member inside => ?_
  rcases List.mem_append.mp (perm.mem_iff.mp inside) with inside | inside
  · exact floatFreeMembers_iff.mp own_free member inside
  · exact free member inside

theorem Tagged.carries_of_record (tagged : Tagged α)
    (listed : tagged.variants.lookup name = some (.record title fields))
    (distinct : (tagged.tag :: fields.names).Nodup) (keys : own.map (·.1) = fields.order)
    (free : FloatFreeMembers own) (shallow : depthMembers own ≤ 126)
    (gives : ∀ tooLong, fields.Gives (View.ofBuffer tooLong).source
      (fun name => (own.lookup name).map ((View.ofBuffer tooLong).data 0)) message) :
    tagged.Carries ((tagged.tag, .str name) :: own) message := by
  obtain ⟨tag_fresh, names_nodup⟩ := List.nodup_cons.mp distinct
  have known : ∀ name, name ∈ own.map (·.1) ↔ name ∈ fields.names := by
    intro name
    rw [keys, Fields.order, List.mem_reverse]
  have nodup : (((tagged.tag, Json.str name) :: own).map (·.1)).Nodup := by
    rw [List.map_cons, List.nodup_cons, known, keys, Fields.order, List.nodup_reverse]
    exact ⟨tag_fresh, names_nodup⟩
  have all_free : FloatFreeMembers ((tagged.tag, .str name) :: own) := ⟨trivial, free⟩
  have anyText : ∀ (text : String) (members further : List (String × Json)),
      members.Perm ((tagged.tag, .str name) :: own ++ further) →
      (∀ member ∈ further, member.1 ∉ ((tagged.tag, Json.str name) :: own).map (·.1)) →
      readText text (Draft.read Draft.maxLevels) = .ok (.obj members) →
        tagged.ofText text = .ok message := by
    intro text members further perm foreign read
    have tag_once : under members tagged.tag = [.str name] := by
      rw [under_eq_of_perm perm nodup foreign List.mem_cons_self, under_cons_self]
      exact congrArg _ (under_eq_nil_iff.mpr ((known tagged.tag).not.mpr tag_fresh))
    -- Under the name of a field stands what the message has there, and nothing else.
    have held : ∀ name ∈ fields.names,
        under (members.filter fun member => member.1 ≠ tagged.tag) name = under own name := by
      intro field listed
      have other : tagged.tag ≠ field := fun same => tag_fresh (same ▸ listed)
      rw [under_filter_of_ne other, under_eq_of_perm perm nodup foreign
        (List.mem_cons_of_mem _ ((known field).mpr listed)), under_cons_of_ne other]
    rw [tagged.ofText_of_readText read listed tag_once]
    exact (View.ofBuffer _).read_record_of_under names_nodup (List.nodup_cons.mp nodup).2 held (gives _)
  refine ⟨Layout.oneLine_compact all_free, ?_, anyText, ?_⟩
  · refine anyText _ _ [] (by rw [List.append_nil]) (by simp) ?_
    rw [Layout.compact_eq_text]
    exact readText_text _ all_free (Nat.succ_le_succ (Nat.max_le.mpr ⟨Nat.zero_le _, shallow⟩))
  · intro layout members further perm foreign within
    refine anyText _ members further perm (fun member inside => (foreign member inside).1) ?_
    exact readText_text layout
      (floatFree_of_perm perm all_free fun member inside => (foreign member inside).2) within

end

end Outliner.Json
