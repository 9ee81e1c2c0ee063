import Mathlib
import TemplateServer.Proofs.Session.Opening

/-! Lines that can be left out of a session without a trace in the responses to the others. -/

namespace TemplateServer

open Json

def select {α : Type} (kept : Nat → Bool) : List α → List α
  | [] => []
  | x :: xs =>
    if kept 0 then x :: select (fun i => kept (i + 1)) xs else select (fun i => kept (i + 1)) xs

lemma select_sublist {α : Type} (kept : Nat → Bool) (xs : List α) : (select kept xs).Sublist xs := by
  induction xs generalizing kept with
  | nil => exact List.Sublist.slnil
  | cons x xs ih =>
    rw [select]
    split
    · exact (ih _).cons_cons x
    · exact (ih _).cons x

def Terminated (line : Bytes) : Prop := ∃ body, lineFeed ∉ body ∧ line = body ++ [lineFeed]

lemma isLines_of_terminated {ls : List Bytes} (h : ∀ line ∈ ls, Terminated line) : IsLines ls := by
  induction ls with
  | nil => exact .nil
  | cons line rest ih =>
    obtain ⟨⟨body, hn, rfl⟩, hrest⟩ := List.forall_mem_cons.mp h
    exact .ended hn (ih hrest)

/-- Neither is this the line that opens the session, nor does it draw once the session is open. -/
def Spare (limit : Nat) (earlier : List Bytes) (line : Bytes) : Prop :=
  (Opens limit line → ∃ e ∈ earlier, Opens limit e) ∧
    (Draws limit line → ∀ e ∈ earlier, ¬ Opens limit e)

namespace Server

variable {σ : Type} [WordSource σ]

lemma Receives.of_not_draws {server after : Server σ} {line : Bytes} {response : Option Response}
    (h : Receives server line response after) (hready : server.ready = true)
    (hline : ¬ Draws server.limit line) : after = server := by
  cases h with
  | blank _ | unreadable _ | otherVersion _ _ | notReady _ _ _ _ => rfl
  | @answered r hl hv _ =>
    have hs : (r.answer server.source).source = server.source :=
      Request.source_answer (fun hd => hline ⟨r, hl, hv, hd⟩) _
    rw [hs, ← hready]

lemma written_of_spare {server : Server σ} {earlier : List Bytes}
    (hready : server.ready = true ↔ ∃ e ∈ earlier, Opens server.limit e) {line : Bytes}
    (h : Spare server.limit earlier line) : (server.receive line).written = server := by
  cases ho : server.ready with
  | false =>
    have hn : ¬ Opens server.limit line := by
      intro hl
      rw [hready.mpr (h.1 hl)] at ho
      cases ho
    exact ((server.receives line).refuses ho hn).1
  | true =>
    obtain ⟨e, he, hopen⟩ := hready.mp ho
    exact (server.receives line).of_not_draws ho (fun hd => h.2 hd e he hopen)

lemma select_responses {server : Server σ} {earlier : List Bytes}
    (hready : server.ready = true ↔ ∃ e ∈ earlier, Opens server.limit e) {kept : Nat → Bool}
    {ls : List Bytes}
    (h : ∀ i line, ls[i]? = some line → kept i = false →
      Spare server.limit (earlier ++ ls.take i) line) :
    server.after (select kept ls) = server.after ls ∧
      server.responses (select kept ls) = select kept (server.responses ls) := by
  -- whether a line can go depends on the lines before it, so these are carried along
  induction ls generalizing server earlier kept with
  | nil => exact ⟨rfl, rfl⟩
  | cons line rest ih =>
    have hnext : (server.receive line).written.ready = true ↔
        ∃ e ∈ earlier ++ [line], Opens (server.receive line).written.limit e := by
      rw [ready_written, limit_written_receive, hready]
      simp only [List.mem_append, List.mem_singleton, or_and_right, exists_or, exists_eq_left]
    have hrest : ∀ i l, rest[i]? = some l → kept (i + 1) = false →
        Spare (server.receive line).written.limit (earlier ++ [line] ++ rest.take i) l := by
      intro i l hl hk
      rw [limit_written_receive, List.append_assoc, List.singleton_append]
      exact h (i + 1) l hl hk
    obtain ⟨ha, hr⟩ := ih hnext hrest
    rw [after_cons, responses, select, select]
    cases hk : kept 0 with
    | true =>
      rw [if_pos rfl, if_pos rfl, after_cons, responses, ha, hr]
      exact ⟨rfl, rfl⟩
    | false =>
      have hw : (server.receive line).written = server := by
        apply written_of_spare hready
        simpa using h 0 line rfl hk
      rw [if_neg Bool.false_ne_true, if_neg Bool.false_ne_true]
      rw [hw] at ha hr ⊢
      exact ⟨ha, hr⟩

end Server

variable {σ : Type} [WordSource σ]

theorem responses_select (server : Server σ) (hclosed : server.ready = false) {ls : List Bytes}
    (hls : ∀ line ∈ ls, Terminated line) (kept : Nat → Bool)
    (hspare : ∀ i line, ls[i]? = some line → kept i = false →
      Spare server.limit (ls.take i) line)
    {full part : List Bytes} (hfull : full.flatten = ls.flatten)
    (hpart : part.flatten = (select kept ls).flatten) (hm : server.Measures full.flatten) :
    let servedFull := server.serve (.ofBuffers full) .unbounded
    let servedPart := server.serve (.ofBuffers part) .unbounded
    servedFull.output.bytes = (server.responses ls).flatMap responseBytes ∧
      servedPart.output.bytes = (server.responses (select kept ls)).flatMap responseBytes ∧
      server.responses (select kept ls) = select kept (server.responses ls) ∧
      servedPart.server = servedFull.server := by
  have hsub := select_sublist kept ls
  have hlines : lines full.flatten = ls := by
    rw [hfull]
    exact lines_flatten (isLines_of_terminated hls)
  have hlines' : lines part.flatten = select kept ls := by
    rw [hpart]
    exact lines_flatten (isLines_of_terminated (fun line hl => hls line (hsub.subset hl)))
  have hm' : server.Measures part.flatten := by
    have hlength : part.flatten.length ≤ full.flatten.length := by
      rw [hpart, hfull]
      exact hsub.flatten.length_le
    exact hm.imp id (fun h => Nat.lt_of_le_of_lt hlength h)
  have hready : server.ready = true ↔ ∃ e ∈ ([] : List Bytes), Opens server.limit e := by
    rw [hclosed]
    simp
  obtain ⟨hs, ho⟩ := server.serve_ofBuffers hm
  obtain ⟨hs', ho'⟩ := server.serve_ofBuffers hm'
  rw [hlines] at hs ho
  rw [hlines'] at hs' ho'
  obtain ⟨ha, hr⟩ := Server.select_responses hready hspare
  exact ⟨ho, ho', hr, hs'.trans (ha.trans hs.symm)⟩

theorem responses_select_ping :
    let server : Server Replay := ⟨100, .ofList [0, 3000000000], false⟩
    let ping := Text.bytes "[\"2.0\",1,\"ping\",null]\n"
    let first := Text.bytes "[\"2.0\",2,\"initialize\",null]\n"
    let draw := Text.bytes
      "[\"2.0\",3,\"tools/call\",[\"generate_random_output\",[\"[a]\\na\\n x | y\"]]]\n"
    let ls := [ping, first, ping, draw]
    let part := [first ++ draw.take 10, draw.drop 10]
    server.ready = false ∧ (∀ line ∈ ls, Terminated line) ∧ Spare 100 [] ping ∧
      Spare 100 [ping, first] ping ∧ server.Measures [ls.flatten].flatten ∧
      (server.serve (.ofBuffers part) .unbounded).server =
        (server.serve (.ofBuffers [ls.flatten]) .unbounded).server ∧
      server.responses [first, draw] = select (fun i => i % 2 = 1) (server.responses ls) := by
  intro server ping first draw ls part
  have hr : lineRequest? 100 ping = some ⟨"2.0", some (.number 1), "ping", none⟩ := by
    rw [lineRequest?_bytes (by decide)]
    cbv
  have hspare : ∀ earlier, Spare 100 earlier ping := by
    intro earlier
    constructor
    · rintro ⟨r, h, _, hm⟩
      cases hr.symm.trans h
      cases hm
    · rintro ⟨r, h, _, _, _, _, hm, _⟩
      cases hr.symm.trans h
      cases hm
  have hterm : ∀ line ∈ ls, Terminated line := by
    intro line hline
    refine ⟨line.dropLast, ?_⟩
    revert line
    decide
  have hm : server.Measures [ls.flatten].flatten := Or.inl (by decide)
  have hping : ∀ (a b c : Bytes) (i : Nat) (line : Bytes), [a, b, a, c][i]? = some line →
      decide (i % 2 = 1) = false → line = a := by
    intro a b c i line hi hk
    rcases i with _ | _ | _ | _ | n
    · exact (Option.some.inj hi).symm
    · cases hk
    · exact (Option.some.inj hi).symm
    · cases hk
    · cases hi
  have hkept : ∀ i line, ls[i]? = some line → decide (i % 2 = 1) = false →
      Spare 100 (ls.take i) line := by
    intro i line hi hk
    rw [hping ping first draw i line hi hk]
    exact hspare _
  have hpart : part.flatten = (select (fun i => i % 2 = 1) ls).flatten := by
    simp [part, ls, select]
  obtain ⟨_, _, hresponses, hserver⟩ :=
    responses_select server rfl hterm _ hkept List.flatten_singleton hpart hm
  exact ⟨rfl, hterm, hspare _, hspare _, hm, hserver, hresponses⟩

end TemplateServer
