import TemplateServer.Proofs.Json.Rereading
import TemplateServer.Text.Utf8

namespace TemplateServer.Json

lemma not_mem_escapeChar (c : Char) : '\n' ∉ escapeChar c := by
  have hdigit : ∀ d < 16, Nat.digitChar d ≠ '\n' := by decide
  by_cases hnamed : c ∈ ['"', '\\', '\x08', '\x0c', '\n', '\r', '\t']
  · simp only [List.mem_cons, List.not_mem_nil, or_false] at hnamed
    rcases hnamed with rfl | rfl | rfl | rfl | rfl | rfl | rfl <;> decide
  · simp only [List.mem_cons, List.not_mem_nil, or_false, not_or] at hnamed
    obtain ⟨h1, h2, h3, h4, h5, h6, h7⟩ := hnamed
    by_cases hc : c < ' '
    · have hlt : c.toNat < 32 := hc
      have hhigh := hdigit (c.toNat / 16) (by omega)
      have hlow := hdigit (c.toNat % 16) (by omega)
      simp [escapeChar, h1, h2, h3, h4, h5, h6, h7, hc, controlEscape, Ne.symm hhigh, Ne.symm hlow]
    · simp [escapeChar, h1, h2, h3, h4, h5, h6, h7, hc, Ne.symm h5]

lemma not_mem_quote (s : Text) : '\n' ∉ quote s := by
  simp [quote, not_mem_escapeChar]

lemma not_mem_ofInt (n : Int) : '\n' ∉ Text.ofInt n := by
  have hdigits : ∀ m, '\n' ∉ Text.ofNat m := by
    intro m hm
    have hd := Numeral.isDigit_of_mem_ofNat hm
    cases hd
  cases n with
  | ofNat m => exact hdigits m
  | negSucc m =>
    intro hm
    rcases List.mem_cons.mp hm with hm | hm
    · cases hm
    · exact hdigits _ hm

lemma not_mem_itemsText {items : List Json} (h : ∀ v ∈ items, '\n' ∉ v.text) :
    '\n' ∉ itemsText items := by
  induction items with
  | nil => decide
  | cons v rest ih =>
    obtain ⟨hv, hrest⟩ := List.forall_mem_cons.mp h
    simp [itemsText_cons, hv, ih hrest]

lemma not_mem_membersText {members : List (Text × Json)} (h : ∀ m ∈ members, '\n' ∉ m.2.text) :
    '\n' ∉ membersText members := by
  induction members with
  | nil => decide
  | cons m rest ih =>
    obtain ⟨k, v⟩ := m
    obtain ⟨hv, hrest⟩ := List.forall_mem_cons.mp h
    simp [membersText_cons, not_mem_quote, hv, ih hrest]

lemma Readable.not_mem_text {d : Nat} {v : Json} (h : Readable d v) : '\n' ∉ v.text := by
  induction h with
  | null => decide
  | bool b => cases b <;> decide
  | int _ _ =>
    rw [text_int]
    exact not_mem_ofInt _
  | str s =>
    rw [text_str]
    exact not_mem_quote s
  | @arr d items _ ih =>
    cases items with
    | nil => decide
    | cons v rest =>
      obtain ⟨hv, hrest⟩ := List.forall_mem_cons.mp ih
      simp [text_arr_cons, hv, not_mem_itemsText hrest]
  | @obj d members _ ih =>
    cases members with
    | nil => decide
    | cons m rest =>
      obtain ⟨k, v⟩ := m
      obtain ⟨hv, hrest⟩ := List.forall_mem_cons.mp ih
      simp [text_obj_cons, not_mem_quote, hv, not_mem_membersText hrest]

end TemplateServer.Json

namespace TemplateServer.Text

lemma not_mem_utf8EncodeChar {c : Char} (h : c ≠ '\n') : 10 ∉ String.utf8EncodeChar c := by
  have hc : c.val.toNat ≠ 10 := fun e => h (Char.toNat_inj.mp e)
  have hbyte : ∀ n, (10 : UInt8) = UInt8.ofNat n → n % 256 = 10 := by
    intro n e
    simpa using (congrArg UInt8.toNat e).symm
  intro hm
  simp only [String.utf8EncodeChar] at hm
  split at hm
  · have h1 := hbyte _ (List.mem_singleton.mp hm)
    omega
  · split at hm
    · simp only [List.mem_cons, List.not_mem_nil, or_false] at hm
      rcases hm with hm | hm <;> have hn := hbyte _ hm <;> omega
    · split at hm
      · simp only [List.mem_cons, List.not_mem_nil, or_false] at hm
        rcases hm with hm | hm | hm <;> have hn := hbyte _ hm <;> omega
      · simp only [List.mem_cons, List.not_mem_nil, or_false] at hm
        rcases hm with hm | hm | hm | hm <;> have hn := hbyte _ hm <;> omega

lemma not_mem_bytes {s : Text} (h : '\n' ∉ s) : 10 ∉ s.bytes := by
  intro hm
  obtain ⟨c, hc, hb⟩ := List.mem_flatMap.mp hm
  exact not_mem_utf8EncodeChar (fun e => h (e ▸ hc)) hb

end TemplateServer.Text
