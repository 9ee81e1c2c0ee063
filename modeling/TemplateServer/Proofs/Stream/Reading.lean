import TemplateServer.Proofs.Stream.Lines

namespace TemplateServer.Input

def ofBuffers (buffers : List Bytes) : Input := ⟨buffers, .closed⟩

lemma min_lineLength_append {b : Bytes} (h : lineFeed ∉ b) (rest : Bytes) {bound : Nat}
    (hb : b.length < bound) :
    min bound (lineLength (b ++ rest)) = b.length + min (bound - b.length) (lineLength rest) := by
  rw [lineLength_append h]
  omega

lemma bytes_cut (bound : Nat) (buffers : List Bytes) (read : Bytes) :
    (cut bound buffers read).bytes =
        read.reverse ++ buffers.flatten.take (min bound (lineLength buffers.flatten)) ∧
      (cut bound buffers read).rest.flatten =
        buffers.flatten.drop (min bound (lineLength buffers.flatten)) := by
  induction buffers generalizing bound read with
  | nil => simp [cut]
  | cons b buffers ih =>
    rcases separator_cases lineFeed b with h | ⟨body, after, h, rfl⟩
    · -- the buffer holds no line feed, so the read goes on unless the bound ends it
      simp only [cut, takeWhile_of_not_mem h, dropWhile_of_not_mem h, List.flatten_cons]
      split
      · rename_i hb
        have hm : min bound (lineLength (b ++ buffers.flatten)) = bound := by
          rw [lineLength_append h, lineLength]
          omega
        rw [hm, List.take_append_of_le_length hb, List.drop_append_of_le_length hb]
        simp [List.reverseAux_eq]
      · rename_i hb
        obtain ⟨hbytes, hrest⟩ := ih (bound - b.length) (b.reverseAux read)
        rw [min_lineLength_append h _ (Nat.lt_of_not_le hb), List.take_length_add_append,
          List.drop_length_add_append, hbytes, hrest]
        simp [List.reverseAux_eq]
    · simp only [cut, takeWhile_append_lineFeed h, dropWhile_append_lineFeed h, List.flatten_cons,
        List.append_assoc, List.cons_append, lineLength_append_lineFeed h]
      split
      · rename_i hb
        rw [Nat.min_eq_left (Nat.le_succ_of_le hb), List.take_append_of_le_length hb,
          List.drop_append_of_le_length hb]
        simp [List.reverseAux_eq, List.drop_append_of_le_length hb]
      · rename_i hb
        rw [Nat.min_eq_right (by omega), List.take_length_add_append, List.drop_length_add_append]
        simp [List.reverseAux_eq]

lemma flatten_afterLine? (buffers : List Bytes) :
    ((afterLine? buffers).getD []).flatten = buffers.flatten.drop (lineLength buffers.flatten) := by
  induction buffers with
  | nil => rfl
  | cons b buffers ih =>
    rcases separator_cases lineFeed b with h | ⟨body, after, h, rfl⟩
    · rw [afterLine?, dropWhile_of_not_mem h, List.flatten_cons, lineLength_append h,
        List.drop_length_add_append]
      exact ih
    · rw [afterLine?, dropWhile_append_lineFeed h, List.flatten_cons, List.append_assoc,
        List.cons_append, lineLength_append_lineFeed h, List.drop_length_add_append]
      rfl

lemma complete_cut_iff {bound : Nat} (hb : 0 < bound) (buffers : List Bytes) (read : Bytes) :
    (cut bound buffers read).complete = true ↔
      bound ≤ buffers.flatten.length ∨ lineFeed ∈ buffers.flatten := by
  induction buffers generalizing bound read with
  | nil => simp [cut, hb.ne']
  | cons b buffers ih =>
    rcases separator_cases lineFeed b with h | ⟨body, after, h, rfl⟩
    · simp only [cut, takeWhile_of_not_mem h, dropWhile_of_not_mem h, List.flatten_cons,
        List.length_append, List.mem_append, h, false_or]
      split
      · rename_i hle
        exact iff_of_true rfl (Or.inl (Nat.le_add_right_of_le hle))
      · rename_i hlt
        rw [ih (Nat.sub_pos_of_lt (Nat.lt_of_not_le hlt)), Nat.sub_le_iff_le_add']
    · simp only [cut, takeWhile_append_lineFeed h, dropWhile_append_lineFeed h]
      split
      · exact iff_of_true rfl (Or.inr (by simp))
      · exact iff_of_true rfl (Or.inr (by simp))

lemma afterLine?_eq_none_iff {buffers : List Bytes} :
    afterLine? buffers = none ↔ lineFeed ∉ buffers.flatten := by
  induction buffers with
  | nil => simp [afterLine?]
  | cons b buffers ih =>
    rcases separator_cases lineFeed b with h | ⟨body, after, h, rfl⟩
    · rw [afterLine?, dropWhile_of_not_mem h]
      simp [ih, h]
    · rw [afterLine?, dropWhile_append_lineFeed h]
      simp

lemma read_ofBuffers (buffers : List Bytes) (bound : Nat) :
    (ofBuffers buffers).read bound =
      .ok ((cut bound buffers []).bytes, ofBuffers (cut bound buffers []).rest) := by
  simp only [read, ofBuffers]
  split
  · contradiction
  · rfl

lemma discardLine_ofBuffers (buffers : List Bytes) :
    (ofBuffers buffers).discardLine = .ok (ofBuffers ((afterLine? buffers).getD [])) := by
  simp only [discardLine, ofBuffers]
  cases afterLine? buffers <;> rfl

structure SameBytes (i j : Input) : Prop where
  bytes : i.buffers.flatten = j.buffers.flatten
  ending : i.ending = j.ending

inductive Agree {α : Type} (related : α → α → Prop) : Except Text α → Except Text α → Prop
  | error (reason : Text) : Agree related (.error reason) (.error reason)
  | ok {a b : α} : related a b → Agree related (.ok a) (.ok b)

lemma SameBytes.read {i j : Input} (h : i.SameBytes j) {bound : Nat} (hb : 0 < bound) :
    Agree (fun a b => a.1 = b.1 ∧ a.2.SameBytes b.2) (i.read bound) (j.read bound) := by
  obtain ⟨hbytes, hrest⟩ := bytes_cut bound i.buffers []
  obtain ⟨hbytes', hrest'⟩ := bytes_cut bound j.buffers []
  have hcomplete : (cut bound i.buffers []).complete = (cut bound j.buffers []).complete := by
    rw [Bool.eq_iff_iff, complete_cut_iff hb, complete_cut_iff hb, h.bytes]
  rw [h.bytes] at hbytes hrest
  rw [Input.read, Input.read, hcomplete, h.ending]
  split
  · exact .error _
  · exact .ok ⟨hbytes.trans hbytes'.symm, hrest.trans hrest'.symm, rfl⟩

lemma SameBytes.discardLine {i j : Input} (h : i.SameBytes j) :
    Agree SameBytes i.discardLine j.discardLine := by
  have hrest := flatten_afterLine? i.buffers
  rw [h.bytes, ← flatten_afterLine?] at hrest
  have hnone : afterLine? i.buffers = none ↔ afterLine? j.buffers = none := by
    rw [afterLine?_eq_none_iff, afterLine?_eq_none_iff, h.bytes]
  rw [Input.discardLine, Input.discardLine, h.ending]
  cases hi : afterLine? i.buffers with
  | none =>
    rw [hnone.mp hi]
    split
    · contradiction
    · exact .ok ⟨rfl, rfl⟩
    · exact .error _
  | some rest =>
    cases hj : afterLine? j.buffers with
    | none =>
      rw [hnone.mpr hj] at hi
      cases hi
    | some rest' =>
      rw [hi, hj] at hrest
      exact .ok ⟨hrest, rfl⟩

end TemplateServer.Input
