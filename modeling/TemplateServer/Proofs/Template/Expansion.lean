import Mathlib.Data.List.Find
import Mathlib.Data.List.Infix
import Mathlib.Data.List.Nodup
import Mathlib.Tactic.Lemma
import TemplateServer.Proofs.Text.Pieces
import TemplateServer.Template.Fill

namespace TemplateServer.Template

def expandFrom (values : List (Text × Text)) : Nat → Text → Text
  | _, [] => []
  | skip + 1, _ :: rest => expandFrom values skip rest
  | 0, c :: rest =>
    match values.find? fun v => (placeholder v.1).isPrefixOf (c :: rest) with
    | some v => v.2 ++ expandFrom values (v.1.length + 1) rest
    | none => c :: expandFrom values 0 rest

/-- Goes through a text once, from left to right, and puts its value for every placeholder of a
name that has one; all else is copied. -/
def expand (values : List (Text × Text)) (s : Text) : Text := expandFrom values 0 s

def valueOf (values : List (Text × Text)) (name : Text) : Text :=
  match values.find? (·.1 = name) with
  | some v => v.2
  | none => placeholder name

def ClosesNext (s : Text) : Prop :=
  ∀ before after, s = before ++ '[' :: after →
    ∀ c, after.find? (fun c => c = '[' ∨ c = ']') = some c → c = ']'

lemma closesNext_iff_tails {s : Text} : ClosesNext s ↔
    ∀ t ∈ s.tails, t.head? = some '[' →
      t.tail.find? (fun c => c = '[' ∨ c = ']') ≠ some '[' := by
  constructor
  · intro h t ht hopen hf
    obtain ⟨before, rfl⟩ := (List.mem_tails t s).mp ht
    have ht : t = '[' :: t.tail := List.eq_cons_of_mem_head? hopen
    exact absurd (h before t.tail (by rw [← ht]) '[' hf) (by decide)
  · rintro h before after rfl c hf
    have ht := h ('[' :: after) ((List.mem_tails _ _).mpr (List.suffix_append _ _)) rfl
    have hc : c = '[' ∨ c = ']' := by simpa using List.find?_some hf
    rcases hc with rfl | hc
    · exact absurd hf ht
    · exact hc

instance : DecidablePred ClosesNext := fun _ => decidable_of_iff _ closesNext_iff_tails.symm

inductive PairsBrackets : Text → Prop
  | nil : PairsBrackets []
  | char {c : Char} {rest : Text} : c ≠ '[' → PairsBrackets rest → PairsBrackets (c :: rest)
  | pair {inner rest : Text} : '[' ∉ inner → ']' ∉ inner → PairsBrackets rest →
      PairsBrackets (placeholder inner ++ rest)
  | alone {rest : Text} : '[' ∉ rest → ']' ∉ rest → PairsBrackets ('[' :: rest)

lemma placeholder_append (name rest : Text) :
    placeholder name ++ rest = '[' :: (name ++ ']' :: rest) := by
  simp [placeholder]

lemma ClosesNext.of_suffix {s t : Text} (h : ClosesNext s) (ht : t <:+ s) : ClosesNext t := by
  obtain ⟨front, rfl⟩ := ht
  rintro before after rfl
  exact h (front ++ before) after (List.append_assoc _ _ _).symm

lemma ClosesNext.pairsBrackets {s : Text} (h : ClosesNext s) : PairsBrackets s := by
  induction hn : s.length using Nat.strongRecOn generalizing s with
  | ind n ih =>
    cases s with
    | nil => exact .nil
    | cons c rest =>
      rw [List.length_cons] at hn
      by_cases hc : c = '['
      · subst hc
        cases hf : rest.find? (fun c => c = '[' ∨ c = ']') with
        | none =>
          have hr := List.find?_eq_none.mp hf
          exact .alone (fun hm => hr _ hm (by decide)) (fun hm => hr _ hm (by decide))
        | some c =>
          obtain rfl := h [] rest rfl c hf
          obtain ⟨_, inner, after, rfl, hi⟩ := List.find?_eq_some_iff_append.mp hf
          rw [← placeholder_append] at h ⊢
          have hlt : after.length < n := by
            rw [← hn, List.length_append, List.length_cons]
            omega
          refine .pair ?_ ?_ (ih _ hlt (h.of_suffix (List.suffix_append _ _)) rfl)
          · exact fun hm => absurd (hi _ hm) (by decide)
          · exact fun hm => absurd (hi _ hm) (by decide)
      · exact .char hc (ih _ (by omega) (h.of_suffix (List.suffix_cons c rest)) rfl)

section Expand

variable (values : List (Text × Text))

lemma expandFrom_skip (skipped rest : Text) :
    expandFrom values skipped.length (skipped ++ rest) = expand values rest := by
  induction skipped with
  | nil => rfl
  | cons c skipped ih => exact ih

lemma expand_cons_of_find?_none {c : Char} {rest : Text}
    (hf : values.find? (fun v => (placeholder v.1).isPrefixOf (c :: rest)) = none) :
    expand values (c :: rest) = c :: expand values rest := by
  rw [expand, expandFrom, hf]
  rfl

lemma expand_cons {c : Char} (hc : c ≠ '[') (rest : Text) :
    expand values (c :: rest) = c :: expand values rest := by
  apply expand_cons_of_find?_none
  rw [List.find?_eq_none]
  intro v _ hp
  rw [placeholder, List.cons_append, List.isPrefixOf_cons_cons, Bool.and_eq_true, beq_iff_eq] at hp
  exact hc hp.1.symm

lemma expand_append {s : Text} (h : '[' ∉ s) (rest : Text) :
    expand values (s ++ rest) = s ++ expand values rest := by
  induction s with
  | nil => rfl
  | cons c s ih =>
    obtain ⟨hc, hs⟩ := not_or.mp (mt List.mem_cons.mpr h)
    rw [List.cons_append, expand_cons values (Ne.symm hc), ih hs, List.cons_append]

lemma expand_of_not_mem {s : Text} (h : '[' ∉ s) : expand values s = s := by
  have he := expand_append values h []
  rwa [expand.eq_1 values [], expandFrom, List.append_nil] at he

lemma expand_alone {rest : Text} (ho : '[' ∉ rest) (hc : ']' ∉ rest) :
    expand values ('[' :: rest) = '[' :: rest := by
  have hf : values.find? (fun v => (placeholder v.1).isPrefixOf ('[' :: rest)) = none := by
    rw [List.find?_eq_none]
    intro v _ hp
    have hsub := (List.isPrefixOf_iff_prefix.mp hp).subset
    have hm : ']' ∈ '[' :: rest := hsub (by simp [placeholder])
    exact hc (by simpa using hm)
  rw [expand_cons_of_find?_none values hf, expand_of_not_mem values ho]

lemma isPrefixOf_placeholder {name inner : Text} (hn : ']' ∉ name) (hi : ']' ∉ inner)
    (rest : Text) :
    (placeholder name).isPrefixOf (placeholder inner ++ rest) = decide (name = inner) := by
  rw [Bool.eq_iff_iff, List.isPrefixOf_iff_prefix, decide_eq_true_eq]
  constructor
  · rintro ⟨behind, he⟩
    rw [placeholder_append, placeholder_append, List.cons.injEq] at he
    exact (Text.append_cons_inj hn hi he.2).1
  · rintro rfl
    exact List.prefix_append _ _

lemma expand_pair {values : List (Text × Text)} (hv : ∀ v ∈ values, ']' ∉ v.1) {inner : Text}
    (ho : '[' ∉ inner) (hc : ']' ∉ inner) (rest : Text) :
    expand values (placeholder inner ++ rest) = valueOf values inner ++ expand values rest := by
  have hf : values.find? (fun v => (placeholder v.1).isPrefixOf (placeholder inner ++ rest)) =
      values.find? (·.1 = inner) := by
    apply List.find?_congr
    intro v hmem
    exact isPrefixOf_placeholder (hv v hmem) hc rest
  rw [placeholder_append] at hf ⊢
  rw [valueOf]
  cases hfound : values.find? (·.1 = inner) with
  | some v =>
    obtain rfl : v.1 = inner := by simpa using List.find?_some hfound
    have hskip := expandFrom_skip values (v.1 ++ [']']) rest
    rw [List.length_append, List.append_assoc] at hskip
    rw [expand, expandFrom, hf, hfound]
    exact congrArg (v.2 ++ ·) hskip
  | none =>
    have hi : '[' ∉ inner ++ [']'] := by simpa using ho
    rw [expand_cons_of_find?_none values (hf.trans hfound), List.append_cons,
      expand_append values hi]
    simp [placeholder]

lemma expand_nil_left (s : Text) : expand [] s = s := by
  rw [expand]
  induction s with
  | nil => rfl
  | cons c rest ih => rw [expandFrom, List.find?_nil, ih]

lemma replaceAll_eq_expand (name value s : Text) :
    Text.replaceAll (placeholder name) value s = expand [(name, value)] s := by
  have hfrom : ∀ skip, Text.replaceFrom (placeholder name) value skip s [] =
      expandFrom [(name, value)] skip s := by
    induction s with
    | nil =>
      intro skip
      cases skip <;> rfl
    | cons c rest ih =>
      intro skip
      cases skip with
      | succ skip => exact ih skip
      | zero =>
        rw [Text.replaceFrom, expandFrom, List.find?_cons, List.find?_nil]
        have hlength : (placeholder name).length - 1 = name.length + 1 := by simp [placeholder]
        cases hp : (placeholder name).isPrefixOf (c :: rest) with
        | true =>
          rw [if_pos rfl, Text.replaceFrom_eq, hlength, ih]
          simp
        | false =>
          rw [if_neg Bool.false_ne_true, Text.replaceFrom_eq, ih]
          rfl
  exact hfrom 0

end Expand

structure Separate (values : List (Text × Text)) : Prop where
  names : ∀ v ∈ values, ']' ∉ v.1
  values : ∀ v ∈ values, '[' ∉ v.2

lemma Separate.mono {values values' : List (Text × Text)} (h : Separate values)
    (hs : values' ⊆ values) : Separate values' :=
  ⟨fun v hv => h.names v (hs hv), fun v hv => h.values v (hs hv)⟩

lemma valueOf_cons (v : Text × Text) (values : List (Text × Text)) (name : Text) :
    valueOf (v :: values) name = if v.1 = name then v.2 else valueOf values name := by
  rw [valueOf, List.find?_cons]
  by_cases h : v.1 = name
  · simp [h]
  · simp [h, valueOf]

lemma valueOf_cases (values : List (Text × Text)) (name : Text) :
    (∃ v ∈ values, v.1 = name ∧ valueOf values name = v.2) ∨
      (∀ v ∈ values, v.1 ≠ name) ∧ valueOf values name = placeholder name := by
  rw [valueOf]
  cases hf : values.find? (·.1 = name) with
  | some v =>
    exact Or.inl ⟨v, List.mem_of_find?_eq_some hf, by simpa using List.find?_some hf, rfl⟩
  | none => exact Or.inr ⟨by simpa using List.find?_eq_none.mp hf, rfl⟩

lemma valueOf_of_mem {values : List (Text × Text)} (hn : (values.map Prod.fst).Nodup)
    {v : Text × Text} (hv : v ∈ values) : valueOf values v.1 = v.2 := by
  rcases valueOf_cases values v.1 with ⟨w, hw, he, hvalue⟩ | ⟨hnone, _⟩
  · rw [hvalue, List.inj_on_of_nodup_map hn hw hv he]
  · exact absurd rfl (hnone v hv)

lemma valueOf_of_not_mem {values : List (Text × Text)} {name : Text}
    (h : ∀ v ∈ values, v.1 ≠ name) : valueOf values name = placeholder name := by
  rcases valueOf_cases values name with ⟨v, hv, he, _⟩ | ⟨_, hvalue⟩
  · exact absurd he (h v hv)
  · exact hvalue

lemma valueOf_perm {values values' : List (Text × Text)} (hn : (values.map Prod.fst).Nodup)
    (hp : values'.Perm values) (name : Text) : valueOf values' name = valueOf values name := by
  have hn' : (values'.map Prod.fst).Nodup := (hp.map Prod.fst).nodup_iff.mpr hn
  rcases valueOf_cases values name with ⟨v, hv, rfl, hvalue⟩ | ⟨hnone, hvalue⟩
  · rw [hvalue, valueOf_of_mem hn' (hp.mem_iff.mpr hv)]
  · rw [hvalue, valueOf_of_not_mem (fun v hv => hnone v (hp.mem_iff.mp hv))]

lemma PairsBrackets.append {s rest : Text} (hs : '[' ∉ s) (h : PairsBrackets rest) :
    PairsBrackets (s ++ rest) := by
  induction s with
  | nil => exact h
  | cons c s ih =>
    obtain ⟨hc, hs⟩ := not_or.mp (mt List.mem_cons.mpr hs)
    exact .char (Ne.symm hc) (ih hs)

/-- A value put for a placeholder opens and closes nothing around it, so the placeholders of the
other names stand as they did. -/
lemma expand_expand {v : Text × Text} {values : List (Text × Text)} (h : Separate (v :: values))
    {s : Text} (hs : PairsBrackets s) :
    expand values (expand [v] s) = expand (v :: values) s ∧ PairsBrackets (expand [v] s) := by
  obtain ⟨hv, hvalues⟩ := List.forall_mem_cons.mp h.names
  have hsingle : ∀ w ∈ [v], ']' ∉ w.1 := fun w hw => List.mem_singleton.mp hw ▸ hv
  have hvalue : '[' ∉ v.2 := h.values v List.mem_cons_self
  induction hs with
  | nil => exact ⟨rfl, .nil⟩
  | @char c rest hc _ ih =>
    rw [expand_cons [v] hc, expand_cons values hc, expand_cons (v :: values) hc, ih.1]
    exact ⟨rfl, .char hc ih.2⟩
  | @pair inner rest ho hcl _ ih =>
    rw [expand_pair hsingle ho hcl, expand_pair h.names ho hcl, valueOf_cons, valueOf_cons]
    by_cases he : v.1 = inner
    · rw [if_pos he, if_pos he, expand_append values hvalue, ih.1]
      exact ⟨rfl, .append hvalue ih.2⟩
    · rw [if_neg he, if_neg he]
      have hother : valueOf [] inner = placeholder inner := rfl
      rw [hother, expand_pair hvalues ho hcl, ih.1]
      exact ⟨rfl, .pair ho hcl ih.2⟩
  | @alone rest ho hcl =>
    rw [expand_alone [v] ho hcl, expand_alone values ho hcl, expand_alone (v :: values) ho hcl]
    exact ⟨rfl, .alone ho hcl⟩

lemma expand_congr {values values' : List (Text × Text)} (h : ∀ v ∈ values, ']' ∉ v.1)
    (h' : ∀ v ∈ values', ']' ∉ v.1) (he : ∀ name, valueOf values name = valueOf values' name)
    {s : Text} (hs : PairsBrackets s) : expand values s = expand values' s := by
  induction hs with
  | nil => rfl
  | char hc _ ih => rw [expand_cons values hc, expand_cons values' hc, ih]
  | pair ho hcl _ ih => rw [expand_pair h ho hcl, expand_pair h' ho hcl, he, ih]
  | alone ho hcl => rw [expand_alone values ho hcl, expand_alone values' ho hcl]

lemma expand_split {values : List (Text × Text)} (hv : ∀ v ∈ values, ']' ∉ v.1) {inner : Text}
    (ho : '[' ∉ inner) (hc : ']' ∉ inner) {s before after : Text} (hs : PairsBrackets s)
    (he : s = before ++ placeholder inner ++ after) :
    expand values s = expand values before ++ valueOf values inner ++ expand values after := by
  rw [List.append_assoc, placeholder_append] at he
  induction hs generalizing before with
  | nil => exact absurd he (by simp)
  | @char c rest hne _ ih =>
    cases before with
    | nil => exact absurd (List.cons.inj he).1 hne
    | cons d before =>
      obtain ⟨rfl, rfl⟩ := List.cons.inj he
      rw [expand_cons values hne, expand_cons values hne, ih rfl]
      rfl
  | @pair inner' rest ho' hc' _ ih =>
    rw [placeholder_append] at he
    cases before with
    | nil =>
      obtain ⟨rfl, rfl⟩ := Text.append_cons_inj hc' hc (List.cons.inj he).2
      exact expand_pair hv ho hc rest
    | cons d before =>
      obtain ⟨rfl, htail⟩ := List.cons.inj he
      -- the placeholder behind starts with a bracket, so it starts behind this one
      rcases List.append_eq_append_iff.mp htail with ⟨front, rfl, hrest⟩ | ⟨back, rfl, hrest⟩
      · cases front with
        | nil => exact absurd (List.cons.inj hrest).1 (by decide)
        | cons e front =>
          obtain ⟨rfl, rfl⟩ := List.cons.inj hrest
          rw [expand_pair hv ho' hc', ih rfl, ← placeholder_append, expand_pair hv ho' hc']
          simp only [List.append_assoc]
      · cases back with
        | nil => exact absurd (List.cons.inj hrest).1 (by decide)
        | cons e back =>
          obtain ⟨rfl, _⟩ := List.cons.inj hrest
          exact absurd (by simp) ho'
  | @alone rest ho' hc' =>
    cases before with
    | nil =>
      obtain ⟨_, rfl⟩ := List.cons.inj he
      exact absurd (by simp) hc'
    | cons d before =>
      obtain ⟨_, rfl⟩ := List.cons.inj he
      exact absurd (by simp) ho'

lemma placeholder_infix_append {name s rest : Text} (hs : '[' ∉ s)
    (h : placeholder name <:+: s ++ rest) : placeholder name <:+: rest := by
  induction s with
  | nil => exact h
  | cons c s ih =>
    obtain ⟨hc, hs⟩ := not_or.mp (mt List.mem_cons.mpr hs)
    rcases List.infix_cons_iff.mp h with ⟨behind, he⟩ | h
    · exact absurd (List.cons.inj he).1 hc
    · exact ih hs h

lemma not_infix_expand {values : List (Text × Text)} (h : Separate values) {v : Text × Text}
    (hv : v ∈ values) {s : Text} (hs : PairsBrackets s) :
    ¬ placeholder v.1 <:+: expand values s := by
  have hc : ']' ∉ v.1 := h.names v hv
  induction hs with
  | nil =>
    intro hi
    have hn := List.infix_nil.mp hi
    cases hn
  | @char c rest hne _ ih =>
    intro hi
    rw [expand_cons values hne, ← List.singleton_append] at hi
    exact ih (placeholder_infix_append (by simpa using Ne.symm hne) hi)
  | @pair inner rest ho' hc' _ ih =>
    intro hi
    rw [expand_pair h.names ho' hc'] at hi
    rcases valueOf_cases values inner with ⟨w, hw, _, he⟩ | ⟨hnone, he⟩
    · rw [he] at hi
      exact ih (placeholder_infix_append (h.values w hw) hi)
    · rw [he, placeholder_append] at hi
      rcases List.infix_cons_iff.mp hi with hp | hi
      · rw [← placeholder_append, ← List.isPrefixOf_iff_prefix, isPrefixOf_placeholder hc hc',
          decide_eq_true_eq] at hp
        exact hnone v hv hp
      · rw [List.append_cons] at hi
        exact ih (placeholder_infix_append (by simpa using ho') hi)
  | @alone rest ho' hc' =>
    intro hi
    rw [expand_alone values ho' hc'] at hi
    have hm : ']' ∈ '[' :: rest := hi.subset (by simp [placeholder])
    exact hc' (by simpa using hm)

end TemplateServer.Template
