import TemplateServer.Json.Form
import TemplateServer.Proofs.Json.Integers
import TemplateServer.Proofs.Json.Readable
import TemplateServer.Proofs.Json.Strings
import TemplateServer.Proofs.Json.Text

/-! What is written can be read. -/

namespace TemplateServer.Json

def get? (v : Json) (key : Text) : Option Json :=
  match v with
  | .obj members => Members.get? members key
  | _ => none

mutual

def sorted : Json → Json
  | .null => .null
  | .bool b => .bool b
  | .int n => .int n
  | .double x => .double x
  | .str s => .str s
  | .arr items => .arr (sortedItems items)
  | .obj members => object (sortedMembers members)

def sortedItems : List Json → List Json
  | [] => []
  | v :: rest => sorted v :: sortedItems rest

def sortedMembers : List (Text × Json) → Members
  | [] => []
  | (k, v) :: rest => (k, sorted v) :: sortedMembers rest

end

namespace Token

lemma scanFrom_nil (done : List Token) : scanFrom done [] = some done.reverse := by rw [scanFrom]

lemma scanFrom_cons {c : Char} {rest rest' : Text} {t : Token} (hb : isBlank c = false)
    (hn : next? c rest = some (t, rest')) (done : List Token) :
    scanFrom done (c :: rest) = scanFrom (t :: done) rest' := by
  rw [scanFrom, hb, if_neg Bool.false_ne_true]
  split
  · rename_i h
    rw [hn] at h
    cases h
  · rename_i h
    rw [hn] at h
    cases h
    rfl

/-- The text is scanned as these tokens, whatever comes behind it to end a value. -/
def Scans (s : Text) (ts : List Token) : Prop :=
  ∀ done rest, Ends rest → scanFrom done (s ++ rest) = scanFrom (ts.reverse ++ done) rest

lemma scans_int (n : Int) : Scans (Text.ofInt n) [.number (.ofInt n)] := by
  intro done rest h
  obtain ⟨c, digits, hd, hc⟩ := ofInt_eq_cons n
  have hscan := Numeral.scan?_ofInt n h
  rw [hd, List.cons_append] at hscan ⊢
  have hb : isBlank c = false := by
    rcases hc with hc | rfl
    · simp only [isBlank, Bool.or_eq_false_iff, beq_eq_false_iff_ne]
      refine ⟨⟨⟨?_, ?_⟩, ?_⟩, ?_⟩ <;> rintro rfl <;> cases hc
    · rfl
  rw [scanFrom_cons hb (by rw [next?_number hc, hscan]; rfl)]
  rfl

lemma scanFrom_quote (s rest : Text) (done : List Token) :
    scanFrom done (quote s ++ rest) = scanFrom (.string (spell s) :: done) rest := by
  have hq : quote s ++ rest = '"' :: (s.flatMap escapeChar ++ '"' :: rest) := by simp [quote]
  rw [hq, scanFrom_cons rfl (next?_quote s rest)]

end Token

namespace Form

open Token

def Builds (ts : List Token) (f : Form) : Prop :=
  ∀ frames, ts.foldlM State.next (.value frames) = some (.done f frames)

lemma Builds.firstItem {ts : List Token} {f : Form} (h : Builds ts f) (frames : List Frame) :
    ts.foldlM State.next (.firstItem frames) = some (.done f (.array [] :: frames)) := by
  have hv := h (.array [] :: frames)
  cases ts with
  | nil => cases hv
  | cons t ts =>
    cases t with
    | closeArray => cases hv
    | _ => exact hv

end Form

open Token Form

def Rereads (d : Nat) (s : Text) (v : Json) : Prop :=
  ∃ ts f, Scans s ts ∧ Builds ts f ∧ f.value? d = some v

def RereadsItems (d : Nat) (s : Text) (vs : List Json) : Prop :=
  (∀ rest, Ends (s ++ rest)) ∧ ∃ ts fs, Scans s ts ∧
    (∀ f items frames, ts.foldlM State.next (.done f (.array items :: frames)) =
      some (.done (.array ((f :: items).reverse ++ fs)) frames)) ∧
    ∀ done, items? d fs done = some (.arr (done.reverse ++ vs))

def RereadsMembers (d : Nat) (s : Text) (ms : Members) : Prop :=
  (∀ rest, Ends (s ++ rest)) ∧ ∃ ts fs, Scans s ts ∧
    (∀ f members key frames, ts.foldlM State.next (.done f (.object members key :: frames)) =
      some (.done (.object (((key, f) :: members).reverse ++ fs)) frames)) ∧
    ∀ done, members? d fs done = some (.obj (ms.foldl (fun ms m => Members.insert m.1 m.2 ms) done))

lemma rereadsItems_nil (d : Nat) : RereadsItems d [']'] [] := by
  refine ⟨fun rest => ends_cons (by simp) rest, [.closeArray], [], ?_, ?_, ?_⟩
  · intro done rest _
    exact scanFrom_cons rfl rfl done
  · intro f items frames
    rw [List.append_nil]
    rfl
  · intro done
    rw [List.append_nil]
    rfl

lemma rereadsItems_cons {d : Nat} {s t : Text} {v : Json} {vs : List Json} (hs : Rereads d s v)
    (ht : RereadsItems d t vs) : RereadsItems d (',' :: s ++ t) (v :: vs) := by
  obtain ⟨ts, f, hscan, hbuild, hvalue⟩ := hs
  obtain ⟨hends, us, fs, hscans, hbuilds, hvalues⟩ := ht
  refine ⟨fun rest => ends_cons (by simp) _, .comma :: ts ++ us, f :: fs, ?_, ?_, ?_⟩
  · intro done rest h
    rw [List.append_assoc, List.cons_append, scanFrom_cons rfl rfl, hscan _ _ (hends rest),
      hscans _ _ h]
    simp
  · intro g items frames
    change (ts ++ us).foldlM State.next (.value (.array (g :: items) :: frames)) = _
    rw [List.foldlM_append, hbuild]
    simpa using hbuilds f (g :: items) frames
  · intro done
    rw [items?, hvalue]
    simpa using hvalues (v :: done)

lemma rereads_arr_nil (d : Nat) : Rereads (d + 1) ['[', ']'] (.arr []) := by
  refine ⟨[.openArray, .closeArray], .array [], ?_, fun _ => rfl, rfl⟩
  intro done rest _
  rw [List.cons_append, scanFrom_cons rfl rfl, List.cons_append, scanFrom_cons rfl rfl]
  rfl

lemma rereads_arr_cons {d : Nat} {s t : Text} {v : Json} {vs : List Json} (hs : Rereads d s v)
    (ht : RereadsItems d t vs) : Rereads (d + 1) ('[' :: s ++ t) (.arr (v :: vs)) := by
  obtain ⟨ts, f, hscan, hbuild, hvalue⟩ := hs
  obtain ⟨hends, us, fs, hscans, hbuilds, hvalues⟩ := ht
  refine ⟨.openArray :: ts ++ us, .array (f :: fs), ?_, ?_, ?_⟩
  · intro done rest h
    rw [List.append_assoc, List.cons_append, scanFrom_cons rfl rfl, hscan _ _ (hends rest),
      hscans _ _ h]
    simp
  · intro frames
    change (ts ++ us).foldlM State.next (.firstItem frames) = _
    rw [List.foldlM_append, hbuild.firstItem]
    exact hbuilds f [] frames
  · rw [value?, items?, hvalue]
    exact hvalues [v]

lemma scanFrom_member {s : Text} {ts : List Token} (h : Scans s ts) (k : Text) {rest : Text}
    (hends : Ends rest) (done : List Token) :
    scanFrom done (quote k ++ ':' :: s ++ rest) =
      scanFrom (ts.reverse ++ .colon :: .string (spell k) :: done) rest := by
  rw [List.append_assoc, scanFrom_quote, List.cons_append, scanFrom_cons rfl rfl, h _ _ hends]

lemma rereadsMembers_nil (d : Nat) : RereadsMembers d ['\x7d'] [] := by
  refine ⟨fun rest => ends_cons (by simp) rest, [.closeObject], [], ?_, ?_, fun _ => rfl⟩
  · intro done rest _
    exact scanFrom_cons rfl rfl done
  · intro f members key frames
    rw [List.append_nil]
    rfl

lemma rereadsMembers_cons {d : Nat} {s t : Text} {v : Json} {ms : Members} (hs : Rereads d s v)
    (ht : RereadsMembers d t ms) (k : Text) :
    RereadsMembers d (',' :: quote k ++ ':' :: s ++ t) ((k, v) :: ms) := by
  obtain ⟨ts, f, hscan, hbuild, hvalue⟩ := hs
  obtain ⟨hends, us, fs, hscans, hbuilds, hvalues⟩ := ht
  refine ⟨fun rest => ends_cons (by simp) _, .comma :: .string (spell k) :: .colon :: ts ++ us,
    (spell k, f) :: fs, ?_, ?_, ?_⟩
  · intro done rest h
    rw [List.append_assoc, List.cons_append, List.cons_append, scanFrom_cons rfl rfl,
      scanFrom_member hscan k (hends rest), hscans _ _ h]
    simp
  · intro g members key frames
    change (ts ++ us).foldlM State.next
      (.value (.object ((key, g) :: members) (spell k) :: frames)) = _
    rw [List.foldlM_append, hbuild]
    simpa using hbuilds f ((key, g) :: members) (spell k) frames
  · intro done
    rw [members?, text?_spell, hvalue]
    exact hvalues (Members.insert k v done)

lemma rereads_obj_nil (d : Nat) : Rereads (d + 1) ['\x7b', '\x7d'] (.obj []) := by
  refine ⟨[.openObject, .closeObject], .object [], ?_, fun _ => rfl, rfl⟩
  intro done rest _
  rw [List.cons_append, scanFrom_cons rfl rfl, List.cons_append, scanFrom_cons rfl rfl]
  rfl

lemma rereads_obj_cons {d : Nat} {s t : Text} {v : Json} {ms : Members} (hs : Rereads d s v)
    (ht : RereadsMembers d t ms) (k : Text) :
    Rereads (d + 1) ('\x7b' :: quote k ++ ':' :: s ++ t) (object ((k, v) :: ms)) := by
  obtain ⟨ts, f, hscan, hbuild, hvalue⟩ := hs
  obtain ⟨hends, us, fs, hscans, hbuilds, hvalues⟩ := ht
  refine ⟨.openObject :: .string (spell k) :: .colon :: ts ++ us, .object ((spell k, f) :: fs),
    ?_, ?_, ?_⟩
  · intro done rest h
    rw [List.append_assoc, List.cons_append, List.cons_append, scanFrom_cons rfl rfl,
      scanFrom_member hscan k (hends rest), hscans _ _ h]
    simp
  · intro frames
    change (ts ++ us).foldlM State.next (.value (.object [] (spell k) :: frames)) = _
    rw [List.foldlM_append, hbuild]
    exact hbuilds f [] (spell k) frames
  · rw [value?, members?, text?_spell, hvalue]
    exact hvalues (Members.insert k v [])

lemma rereadsItems_itemsText {d : Nat} {items : List Json}
    (h : ∀ v ∈ items, Rereads d v.text v.sorted) :
    RereadsItems d (itemsText items) (sortedItems items) := by
  induction items with
  | nil => exact rereadsItems_nil d
  | cons v rest ih =>
    obtain ⟨hv, hrest⟩ := List.forall_mem_cons.mp h
    rw [itemsText_cons, sortedItems]
    exact rereadsItems_cons hv (ih hrest)

lemma rereadsMembers_membersText {d : Nat} {members : Members}
    (h : ∀ m ∈ members, Rereads d m.2.text m.2.sorted) :
    RereadsMembers d (membersText members) (sortedMembers members) := by
  induction members with
  | nil => exact rereadsMembers_nil d
  | cons m rest ih =>
    obtain ⟨k, v⟩ := m
    obtain ⟨hv, hrest⟩ := List.forall_mem_cons.mp h
    rw [membersText_cons, sortedMembers]
    exact rereadsMembers_cons hv (ih hrest) k

lemma Readable.rereads {d : Nat} {v : Json} (h : Readable d v) : Rereads d v.text v.sorted := by
  induction h with
  | null =>
    exact ⟨[.null], .null, fun done rest _ => scanFrom_cons rfl rfl done, fun _ => rfl,
      by rw [value?]; rfl⟩
  | bool b =>
    cases b with
    | false =>
      exact ⟨[.bool false], .bool false, fun done rest _ => scanFrom_cons rfl rfl done, fun _ => rfl,
        by rw [value?]; rfl⟩
    | true =>
      exact ⟨[.bool true], .bool true, fun done rest _ => scanFrom_cons rfl rfl done, fun _ => rfl,
        by rw [value?]; rfl⟩
  | @int d n hlow hhigh =>
    rw [text_int]
    refine ⟨[.number (.ofInt n)], .number (.ofInt n), scans_int n, fun _ => rfl, ?_⟩
    rw [value?, Numeral.value?_ofInt hlow hhigh, sorted]
  | str s =>
    rw [text_str]
    refine ⟨[.string (spell s)], .string (spell s), ?_, fun _ => rfl, ?_⟩
    · intro done rest _
      exact scanFrom_quote s rest done
    · rw [value?, text?_spell, sorted]
      rfl
  | @arr d items _ ih =>
    cases items with
    | nil => exact rereads_arr_nil d
    | cons v rest =>
      obtain ⟨hv, hrest⟩ := List.forall_mem_cons.mp ih
      rw [text_arr_cons, sorted, sortedItems]
      exact rereads_arr_cons hv (rereadsItems_itemsText hrest)
  | @obj d members _ ih =>
    cases members with
    | nil => exact rereads_obj_nil d
    | cons m rest =>
      obtain ⟨k, v⟩ := m
      obtain ⟨hv, hrest⟩ := List.forall_mem_cons.mp ih
      rw [text_obj_cons, sorted, sortedMembers]
      exact rereads_obj_cons hv (rereadsMembers_membersText hrest) k

theorem read?_text {v : Json} (h : Readable maxDepth v) : read? v.text = some v.sorted := by
  obtain ⟨ts, f, hscan, hbuild, hvalue⟩ := h.rereads
  have hs : scan v.text = some ts := by
    have hend := hscan [] [] ends_nil
    rwa [List.append_nil, List.append_nil, scanFrom_nil, List.reverse_reverse] at hend
  rw [Json.read?, Form.read?, hs, Option.bind_some, ofTokens?, hbuild]
  exact hvalue

end TemplateServer.Json
