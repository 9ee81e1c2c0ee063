import Mathlib.Data.Char
import Mathlib.Data.List.Lex
import TemplateServer.Proofs.Json.Decoding

/-! Values whose objects have their members in the order of the keys, each key once. -/

namespace TemplateServer.Json

namespace Members

def Ascending (members : Members) : Prop := members.Pairwise fun m n => m.1 < n.1

lemma mem_insert {key : Text} {value : Json} {members : Members} {m : Text × Json}
    (h : m ∈ insert key value members) : m = (key, value) ∨ m ∈ members := by
  induction members with
  | nil => exact Or.inl (List.mem_singleton.mp h)
  | cons n rest ih =>
    rw [insert] at h
    split at h
    · exact (List.mem_cons.mp h).imp_right (List.mem_cons_of_mem n)
    · split at h
      · exact List.mem_cons.mp h
      · rcases List.mem_cons.mp h with rfl | h
        · exact Or.inr List.mem_cons_self
        · exact (ih h).imp_right (List.mem_cons_of_mem n)

lemma Ascending.insert {members : Members} (h : members.Ascending) (key : Text) (value : Json) :
    (members.insert key value).Ascending := by
  induction members with
  | nil => exact List.pairwise_singleton _ _
  | cons n rest ih =>
    obtain ⟨k, v⟩ := n
    obtain ⟨hfirst, hrest⟩ := List.pairwise_cons.mp h
    rw [Members.insert]
    split
    · rename_i hk
      exact List.pairwise_cons.mpr ⟨hk ▸ hfirst, hrest⟩
    · rename_i hne
      split
      · rename_i hlt
        refine List.pairwise_cons.mpr ⟨?_, h⟩
        intro m hm
        rcases List.mem_cons.mp hm with rfl | hm
        · exact hlt
        · exact lt_trans hlt (hfirst m hm)
      · rename_i hlt
        refine List.pairwise_cons.mpr ⟨?_, ih hrest⟩
        intro m hm
        rcases mem_insert hm with rfl | hm
        · exact lt_of_le_of_ne (not_lt.mp hlt) (Ne.symm hne)
        · exact hfirst m hm

lemma Ascending.get?_eq_some_iff {members : Members} (h : members.Ascending) {key : Text} {v : Json} :
    members.get? key = some v ↔ (key, v) ∈ members := by
  refine ⟨mem_of_get?, ?_⟩
  intro hmem
  induction members with
  | nil => cases hmem
  | cons n rest ih =>
    obtain ⟨k, w⟩ := n
    obtain ⟨hfirst, hrest⟩ := List.pairwise_cons.mp h
    rw [get?, List.lookup_cons]
    rcases List.mem_cons.mp hmem with he | hmem
    · cases he
      rw [beq_self_eq_true]
    · rw [beq_false_of_ne (hfirst _ hmem).ne']
      exact ih hrest hmem

end Members

inductive Ordered : Json → Prop
  | null : Ordered .null
  | bool (b : Bool) : Ordered (.bool b)
  | int (n : Int) : Ordered (.int n)
  | double (x : Binary64) : Ordered (.double x)
  | str (s : Text) : Ordered (.str s)
  | arr {items : List Json} : (∀ v ∈ items, Ordered v) → Ordered (.arr items)
  | obj {members : Members} : members.Ascending → (∀ m ∈ members, Ordered m.2) →
      Ordered (.obj members)

lemma Ordered.part {v w : Json} (h : v.Ordered) (hw : Part v w) : w.Ordered := by
  cases hw with
  | item hm =>
    cases h with
    | arr hitems => exact hitems w hm
  | member hm =>
    cases h with
    | obj _ hmembers => exact hmembers _ hm

lemma Numeral.ordered_of_value? {n : Numeral} {v : Json} (h : n.value? = some v) : v.Ordered := by
  rw [value?] at h
  split at h
  · cases h
    exact .int _
  · split at h
    · cases h
      exact .int _
    · obtain ⟨x, _, rfl⟩ := Option.map_eq_some_iff.mp h
      exact .double x

mutual

lemma ordered_of_value? {depth : Nat} {f : Form} {v : Json} (h : f.value? depth = some v) :
    v.Ordered := by
  cases f with
  | null =>
    rw [Form.value?] at h
    cases h
    exact .null
  | bool b =>
    rw [Form.value?] at h
    cases h
    exact .bool b
  | number n =>
    rw [Form.value?] at h
    exact n.ordered_of_value? h
  | string s =>
    rw [Form.value?] at h
    obtain ⟨t, _, rfl⟩ := Option.map_eq_some_iff.mp h
    exact .str t
  | array items =>
    cases depth with
    | zero =>
      rw [Form.value?] at h
      cases h
    | succ depth =>
      rw [Form.value?] at h
      exact ordered_of_items? h (fun _ hv => absurd hv List.not_mem_nil)
  | object members =>
    cases depth with
    | zero =>
      rw [Form.value?] at h
      cases h
    | succ depth =>
      rw [Form.value?] at h
      exact ordered_of_members? h .nil (fun _ hm => absurd hm List.not_mem_nil)

lemma ordered_of_items? {depth : Nat} {fs : List Form} {vs : List Json} {v : Json}
    (h : Form.items? depth fs vs = some v) (hvs : ∀ w ∈ vs, w.Ordered) : v.Ordered := by
  cases fs with
  | nil =>
    rw [Form.items?] at h
    cases h
    exact .arr (fun w hw => hvs w (List.mem_reverse.mp hw))
  | cons f rest =>
    rw [Form.items?] at h
    split at h
    · cases h
    · rename_i w hw
      exact ordered_of_items? h (List.forall_mem_cons.mpr ⟨ordered_of_value? hw, hvs⟩)

lemma ordered_of_members? {depth : Nat} {fs : List (Spelling × Form)} {ms : Members} {v : Json}
    (h : Form.members? depth fs ms = some v) (ha : ms.Ascending) (hms : ∀ m ∈ ms, m.2.Ordered) :
    v.Ordered := by
  cases fs with
  | nil =>
    rw [Form.members?] at h
    cases h
    exact .obj ha hms
  | cons m rest =>
    obtain ⟨k, f⟩ := m
    rw [Form.members?] at h
    split at h
    · rename_i key w _ hw
      refine ordered_of_members? h (ha.insert key w) ?_
      intro m hm
      rcases Members.mem_insert hm with rfl | hm
      · exact ordered_of_value? hw
      · exact hms m hm
    · cases h

end

end TemplateServer.Json
