import TemplateServer.Proofs.Template.Canonical
import TemplateServer.Proofs.Template.Expansion

namespace TemplateServer

variable {σ : Type} [WordSource σ]

lemma WordSource.choose_eq_nil_or_mem (options : List Text) (s : σ) :
    (choose options s).1 = [] ∨ (choose options s).1 ∈ options := by
  rw [choose]
  split
  · exact Or.inl rfl
  · change options.getD (index options.length s).1 [] = [] ∨
      options.getD (index options.length s).1 [] ∈ options
    rw [List.getD_eq_getElem?_getD]
    cases hi : options[(index options.length s).1]? with
    | none => exact Or.inl rfl
    | some o => exact Or.inr (List.mem_of_getElem? hi)

namespace Template

lemma eq_nil_or_mem_of_mem_choices {lists : List OptionList} {s : σ} {choice : Text}
    (h : choice ∈ (choices lists s).1) : choice = [] ∨ ∃ l ∈ lists, choice ∈ l.options := by
  induction lists generalizing s with
  | nil => cases h
  | cons l rest ih =>
    rcases List.mem_cons.mp h with rfl | h
    · exact (WordSource.choose_eq_nil_or_mem l.options s).imp_right
        fun hm => ⟨l, List.mem_cons_self, hm⟩
    · exact (ih h).imp_right fun ⟨m, hm, hc⟩ => ⟨m, List.mem_cons_of_mem l hm, hc⟩

def draw (lists : List OptionList) (s : σ) : List (OptionList × Text) :=
  lists.zip (choices lists s).1

def named (drawn : List (OptionList × Text)) : List (Text × Text) :=
  drawn.map fun p => (p.1.name, p.2)

lemma names_named (drawn : List (OptionList × Text)) :
    (named drawn).map Prod.fst = (drawn.map Prod.fst).map OptionList.name := by
  rw [named, List.map_map, List.map_map]
  rfl

lemma lists_draw (lists : List OptionList) (s : σ) : (draw lists s).map Prod.fst = lists :=
  List.map_fst_zip (Nat.le_of_eq (length_choices lists s).symm)

lemma choices_draw (lists : List OptionList) (s : σ) :
    (draw lists s).map Prod.snd = (choices lists s).1 :=
  List.map_snd_zip (Nat.le_of_eq (length_choices lists s))

lemma separate_draw {lists : List OptionList} (hl : IsProper lists)
    (hnames : ∀ l ∈ lists, ']' ∉ l.name) (s : σ) : Separate (named (draw lists s)) := by
  constructor
  · intro v hv
    obtain ⟨p, hp, rfl⟩ := List.mem_map.mp hv
    exact hnames p.1 (List.of_mem_zip hp).1
  · intro v hv
    obtain ⟨p, hp, rfl⟩ := List.mem_map.mp hv
    rcases eq_nil_or_mem_of_mem_choices (List.of_mem_zip hp).2 with he | ⟨l, hmem, ho⟩
    · exact he ▸ List.not_mem_nil
    · exact ((hl.proper l hmem).options_plain _ ho).2

lemma substitute_eq_expand {drawn : List (OptionList × Text)} (h : Separate (named drawn))
    {s : Text} (hs : PairsBrackets s) :
    substitute (drawn.map Prod.fst) (drawn.map Prod.snd) s = expand (named drawn) s := by
  induction drawn generalizing s with
  | nil => exact (expand_nil_left s).symm
  | cons p drawn ih =>
    obtain ⟨he, hnext⟩ := expand_expand h hs
    have hrest : Separate (named drawn) :=
      h.mono fun v hv => List.mem_cons_of_mem _ hv
    rw [List.map_cons, List.map_cons, substitute, replaceAll_eq_expand, ih hrest hnext]
    exact he

lemma substitute_of_perm {drawn order : List (OptionList × Text)} (h : Separate (named drawn))
    (hn : ((named drawn).map Prod.fst).Nodup) (hp : order.Perm drawn) {s : Text}
    (hs : PairsBrackets s) :
    substitute (order.map Prod.fst) (order.map Prod.snd) s = expand (named drawn) s := by
  have hp : (named order).Perm (named drawn) := hp.map _
  have ho : Separate (named order) := h.mono hp.subset
  rw [substitute_eq_expand ho hs]
  exact expand_congr ho.names h.names (valueOf_perm hn hp) hs

/-- Where no name holds a closing bracket and brackets in the body close next, rendering is one pass
over the body. The order of the lists does not matter, each list has one value for all its
placeholders, which is not looked into again, the placeholders of no list stay, and none of a list
is left. -/
theorem render_eq_expand (source : Text) (s : σ)
    (hnames : ∀ l ∈ (parse source).lists, ']' ∉ l.name) (hbody : ClosesNext (parse source).body) :
    let t := parse source
    let drawn := draw t.lists s
    let output := (render source s).1
    drawn.map Prod.fst = t.lists ∧ output = expand (named drawn) t.body ∧
      (∀ order : List (OptionList × Text), order.Perm drawn →
        substitute (order.map Prod.fst) (order.map Prod.snd) t.body = output) ∧
      (∀ p ∈ drawn, ∀ before after, t.body = before ++ placeholder p.1.name ++ after →
        output = expand (named drawn) before ++ p.2 ++ expand (named drawn) after) ∧
      (∀ inner before after, '[' ∉ inner → ']' ∉ inner → (∀ l ∈ t.lists, l.name ≠ inner) →
        t.body = before ++ placeholder inner ++ after →
        output = expand (named drawn) before ++ placeholder inner ++ expand (named drawn) after) ∧
      ∀ l ∈ t.lists, ¬ placeholder l.name <:+: output := by
  intro t drawn output
  have hproper : IsProper t.lists :=
    (isReading_parse source).isProper (fun line => fillsLine_of_mem_lines)
  have hlists : drawn.map Prod.fst = t.lists := lists_draw t.lists s
  have hvnames : (named drawn).map Prod.fst = t.lists.map OptionList.name := by
    rw [names_named, hlists]
  have hn : ((named drawn).map Prod.fst).Nodup := hvnames ▸ hproper.names_nodup
  have hs : Separate (named drawn) := separate_draw hproper hnames s
  have hp : PairsBrackets t.body := hbody.pairsBrackets
  have hexpand : output = expand (named drawn) t.body := by
    rw [← substitute_eq_expand hs hp, hlists, choices_draw]
    rfl
  refine ⟨hlists, hexpand, ?_, ?_, ?_, ?_⟩
  · intro order hperm
    rw [hexpand, substitute_of_perm hs hn hperm hp]
  · intro p hmem before after hb
    have hl : p.1 ∈ t.lists := hlists ▸ List.mem_map_of_mem hmem
    have ho : '[' ∉ p.1.name := (hproper.proper p.1 hl).name_declares.no_bracket
    have hvalue : valueOf (named drawn) p.1.name = p.2 :=
      valueOf_of_mem hn (List.mem_map_of_mem hmem)
    rw [hexpand, expand_split hs.names ho (hnames p.1 hl) hp hb, hvalue]
  · intro inner before after ho hc hl hb
    have hvalue : valueOf (named drawn) inner = placeholder inner := by
      apply valueOf_of_not_mem
      intro v hv he
      obtain ⟨l, hmem, hname⟩ := List.mem_map.mp (hvnames ▸ List.mem_map_of_mem hv)
      exact hl l hmem (hname.trans he)
    rw [hexpand, expand_split hs.names ho hc hp hb, hvalue]
  · intro l hl
    obtain ⟨v, hv, he⟩ := List.mem_map.mp (hvnames ▸ List.mem_map_of_mem hl)
    rw [hexpand, ← he]
    exact not_infix_expand hs hv hp

theorem render_open_body :
    let source : Text := "[a]] [b] [a][c\na\nx]|y\nb"
    let s := Replay.ofList [0]
    (∀ l ∈ (parse source).lists, ']' ∉ l.name) ∧ ClosesNext (parse source).body ∧
      (render source s).1 = expand [("a", "x]"), ("b", [])] (parse source).body ∧
      (render source s).1 = ("x]]  x][c" : String).toList ∧
      ¬ placeholder "a" <:+: (render source s).1 := by
  intro source s
  have hnames : ∀ l ∈ (parse source).lists, ']' ∉ l.name := by decide
  have hbody : ClosesNext (parse source).body := by decide
  obtain ⟨_, hexpand, _, _, _, hleft⟩ := render_eq_expand source s hnames hbody
  exact ⟨hnames, hbody, hexpand, by decide, hleft ⟨"a", ["x]", "y"]⟩ (by decide)⟩

end Template

end TemplateServer
