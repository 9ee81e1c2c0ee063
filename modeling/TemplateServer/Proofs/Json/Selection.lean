import Mathlib.Tactic.Lemma
import TemplateServer.Proofs.Json.Decoding

/-! A record read straight from a text and through the value of the text. -/

namespace TemplateServer.Json

/-- The same value, or two objects with the same members of these keys. -/
inductive Agree (keys : List Text) : Json → Json → Prop
  | same (v : Json) : Agree keys v v
  | members {ms ns : Members} : (∀ key ∈ keys, ms.get? key = ns.get? key) →
      Agree keys (.obj ms) (.obj ns)

lemma Members.member?_congr {α : Type} {ms ns : Members} {key : Text}
    (h : ms.get? key = ns.get? key) (decode : Json → Decoded α) :
    ms.member? key decode = ns.member? key decode := by
  rw [member?, member?, h]

lemma Members.get?_insert_congr {ms ns : Members} {key other : Text}
    (h : ms.get? key = ns.get? key) (v : Json) :
    (ms.insert other v).get? key = (ns.insert other v).get? key := by
  by_cases hk : key = other
  · rw [hk, get?_insert_self, get?_insert_self]
  · rw [get?_insert_of_ne hk, get?_insert_of_ne hk, h]

namespace Form

def SpellsOnce (keys : List Text) : Form → Prop
  | .object members => ∀ key ∈ keys, members.countP (·.1.text? = some key) ≤ 1
  | _ => True

instance (keys : List Text) : DecidablePred (SpellsOnce keys)
  | .object members =>
    inferInstanceAs (Decidable (∀ key ∈ keys, members.countP (·.1.text? = some key) ≤ 1))
  | .null | .bool _ | .number _ | .string _ | .array _ => inferInstanceAs (Decidable True)

def isNamed (keys : List Text) (m : Spelling × Form) : Bool := m.1.text?.any (· ∈ keys)

def flat (keys : List Text) : List (Text × Shape) := keys.map fun key => (key, .whole)

lemma lookup_flat (keys : List Text) (key : Text) :
    (flat keys).lookup key = if key ∈ keys then some .whole else none := by
  induction keys with
  | nil => rfl
  | cons name keys ih =>
    rw [flat, List.map_cons, ← flat, List.lookup_cons, ih]
    by_cases h : key = name
    · simp [h]
    · simp [h, beq_false_of_ne h]

lemma select?_whole (f : Form) : f.select? .whole = some f := by
  cases f <;> simp [select?]

lemma selectItems?_whole {shapes : List Shape} (h : ∀ shape ∈ shapes, shape = .whole)
    (items out : List Form) :
    selectItems? shapes items out = some (.array (out.reverse ++ items)) := by
  induction items generalizing shapes out with
  | nil => rw [selectItems?, List.append_nil]
  | cons f items ih =>
    have hhead : shapes.headD .whole = .whole := by
      cases shapes with
      | nil => rfl
      | cons shape shapes => exact h shape List.mem_cons_self
    rw [selectItems?, hhead, select?_whole]
    simp [ih (fun shape hs => h shape (List.mem_of_mem_tail hs))]

lemma selectMembers?_flat {keys : List Text} {members out : List (Spelling × Form)}
    (hspelled : ∀ m ∈ members, m.1.text? ≠ none)
    (honce : ∀ key ∈ keys, (out ++ members).countP (·.1.text? = some key) ≤ 1) :
    selectMembers? (flat keys) members out =
      some (.object (out.reverse ++ members.filter (isNamed keys))) := by
  induction members generalizing out with
  | nil => simp [selectMembers?]
  | cons m members ih =>
    obtain ⟨k, f⟩ := m
    obtain ⟨hk, hrest⟩ := List.forall_mem_cons.mp hspelled
    obtain ⟨key, hkey⟩ := Option.ne_none_iff_exists'.mp hk
    simp only [selectMembers?, hkey, lookup_flat]
    by_cases hmem : key ∈ keys
    · have hnew : out.any (·.1.text? = some key) = false := by
        have hcount := honce key hmem
        rw [List.countP_append, List.countP_cons_of_pos (by simpa using hkey)] at hcount
        rw [List.any_eq_false, ← List.countP_eq_zero]
        omega
      have hnext : ∀ key ∈ keys,
          (((k, f) :: out) ++ members).countP (·.1.text? = some key) ≤ 1 := by
        intro other hother
        have hperm : ((k, f) :: out ++ members).Perm (out ++ (k, f) :: members) :=
          List.perm_middle.symm
        rw [hperm.countP_eq]
        exact honce other hother
      simp [hmem, hnew, select?_whole, ih hrest hnext, isNamed, hkey]
    · have hnext : ∀ key ∈ keys, (out ++ members).countP (·.1.text? = some key) ≤ 1 := by
        intro other hother
        have hsub : (out ++ members).Sublist (out ++ (k, f) :: members) :=
          (List.Sublist.refl out).append (List.sublist_cons_self _ _)
        exact Nat.le_trans hsub.countP_le (honce other hother)
      simp [hmem, ih hrest hnext, isNamed, hkey]

lemma spelled_of_members? {depth : Nat} {members : List (Spelling × Form)} {ms : Members} {v : Json}
    (h : members? depth members ms = some v) : ∀ m ∈ members, m.1.text? ≠ none := by
  induction members generalizing ms with
  | nil => exact fun _ hm => absurd hm List.not_mem_nil
  | cons m members ih =>
    obtain ⟨k, f⟩ := m
    rw [members?] at h
    split at h
    · next key w hk _ => exact List.forall_mem_cons.mpr ⟨by simp [hk], ih h⟩
    · cases h

lemma members?_filter {keys : List Text} {depth : Nat} {members : List (Spelling × Form)}
    {ms ns : Members} {v : Json} (h : members? depth members ms = some v)
    (hagree : ∀ key ∈ keys, ms.get? key = ns.get? key) :
    ∃ w, members? depth (members.filter (isNamed keys)) ns = some w ∧ Agree keys v w := by
  induction members generalizing ms ns with
  | nil =>
    rw [members?] at h
    cases h
    exact ⟨.obj ns, by rw [List.filter_nil, members?], .members hagree⟩
  | cons m members ih =>
    obtain ⟨k, f⟩ := m
    rw [members?] at h
    split at h
    · next key w hk hf =>
      by_cases hmem : key ∈ keys
      · have hnamed : isNamed keys (k, f) = true := by simp [isNamed, hk, hmem]
        rw [List.filter_cons_of_pos hnamed, members?, hk, hf]
        exact ih h (fun other hother => Members.get?_insert_congr (hagree other hother) w)
      · have hnamed : ¬ isNamed keys (k, f) = true := by simp [isNamed, hk, hmem]
        rw [List.filter_cons_of_neg hnamed]
        apply ih h
        intro other hother
        have hne : other ≠ key := by
          rintro rfl
          exact hmem hother
        rw [Members.get?_insert_of_ne hne, hagree other hother]
    · cases h

lemma select?_flat {keys : List Text} {depth : Nat} {f : Form} {v : Json}
    (h : f.value? depth = some v) (honce : f.SpellsOnce keys) :
    ∃ g w, f.select? (.record (flat keys)) = some g ∧ g.value? depth = some w ∧ Agree keys v w := by
  cases f with
  | null | bool | number | string => exact ⟨_, v, by simp [select?], h, .same v⟩
  | array items =>
    refine ⟨.array items, v, ?_, h, .same v⟩
    rw [select?, selectItems?_whole (by simp [flat])]
    rfl
  | object members =>
    cases depth with
    | zero =>
      rw [value?] at h
      cases h
    | succ depth =>
      rw [value?] at h
      obtain ⟨w, hw, hagree⟩ := members?_filter h (fun _ _ => rfl)
      refine ⟨.object (members.filter (isNamed keys)), w, ?_, ?_, hagree⟩
      · rw [select?]
        exact selectMembers?_flat (spelled_of_members? h) honce
      · rw [value?]
        exact hw

lemma once_of_selectMembers? {keys : List Text} {members out : List (Spelling × Form)} {g : Form}
    (h : selectMembers? (flat keys) members out = some g)
    (honce : ∀ key ∈ keys, out.countP (·.1.text? = some key) ≤ 1) :
    ∀ key ∈ keys, (out ++ members).countP (·.1.text? = some key) ≤ 1 := by
  induction members generalizing out with
  | nil => rwa [List.append_nil]
  | cons m members ih =>
    obtain ⟨k, f⟩ := m
    rw [selectMembers?] at h
    split at h
    · cases h
    · next name hk =>
      rw [lookup_flat] at h
      by_cases hmem : name ∈ keys
      · simp only [if_pos hmem, select?_whole] at h
        split at h
        · cases h
        · next hnew =>
          have hzero : out.countP (·.1.text? = some name) = 0 := by
            simpa [List.countP_eq_zero] using hnew
          have hnext : ∀ key ∈ keys, ((k, f) :: out).countP (·.1.text? = some key) ≤ 1 := by
            intro key hkey
            by_cases he : name = key
            · subst he
              have hone : ((k, f) :: out).countP (·.1.text? = some name) = 1 := by
                rw [List.countP_cons_of_pos (by simpa using hk), hzero]
              exact Nat.le_of_eq hone
            · rw [List.countP_cons_of_neg (by simpa [hk] using he)]
              exact honce key hkey
          intro key hkey
          have hperm : ((k, f) :: out ++ members).Perm (out ++ (k, f) :: members) :=
            List.perm_middle.symm
          rw [← hperm.countP_eq]
          exact ih h hnext key hkey
      · simp only [if_neg hmem] at h
        intro key hkey
        have hne : ¬ k.text? = some key := by
          rw [hk]
          rintro ⟨⟩
          exact hmem hkey
        have hcount := ih h honce key hkey
        rwa [List.countP_append, List.countP_cons_of_neg (by simpa using hne),
          ← List.countP_append]

lemma spellsOnce_of_select? {keys : List Text} {f g : Form}
    (h : f.select? (.record (flat keys)) = some g) : f.SpellsOnce keys := by
  cases f with
  | null | bool | number | string | array => trivial
  | object members =>
    rw [select?] at h
    exact once_of_selectMembers? h (by simp)

end Form

lemma decodeText?_eq_decode {α : Type} [Decodable α] {keys : List Text}
    (hshape : Decodable.shape α = .record (Form.flat keys))
    (hcongr : ∀ {v w : Json}, Agree keys v w →
      (Decodable.decode v : Decoded α) = Decodable.decode w)
    {s : Text} {f : Form} {v : Json} (hf : Form.read? s = some f)
    (hv : f.value? maxDepth = some v) (honce : f.SpellsOnce keys) :
    decodeText? s = (Decodable.decode v : Decoded α).toOption := by
  obtain ⟨g, w, hg, hw, hagree⟩ := Form.select?_flat hv honce
  rw [decodeText?, hf, Option.bind_some, hshape, hg, Option.bind_some, hw, Option.bind_some,
    hcongr hagree]

end TemplateServer.Json
