import Mathlib
import TemplateServer.Proofs.Session.Serving

namespace TemplateServer

variable {σ : Type} [WordSource σ]

def Outcome.IsRefusal (o : Outcome) : Prop :=
  o = .error .parse ∨ o = .error .invalidRequest ∨ o = .error .notReady

lemma RpcError.invalidRequest_ne_notReady : invalidRequest ≠ notReady := by
  intro h
  have hl : invalidRequest.message.length = notReady.message.length := by rw [h]
  exact absurd hl (by decide)

namespace Server

lemma Receives.ready {server after : Server σ} {line : Bytes} {response : Option Response}
    (h : Receives server line response after) :
    after.ready = true ↔ server.ready = true ∨ Opens server.limit line := by
  cases h with
  | blank hl | unreadable hl => simp only [not_opens_of_no_request hl, or_false]
  | otherVersion hl hv => simp only [opens_iff hl, hv, false_and, or_false]
  | notReady hl _ hready hm => simp only [opens_iff hl, hready, hm, and_false, or_false]
  | answered hl hv ho => simpa only [opens_iff hl, hv, true_and, true_iff] using ho

lemma ready_written (server : Server σ) (line : Bytes) :
    (server.receive line).written.ready = true ↔
      server.ready = true ∨ Opens server.limit line := (server.receives line).ready

lemma ready_after (server : Server σ) (ls : List Bytes) :
    (server.after ls).ready = true ↔
      server.ready = true ∨ ∃ line ∈ ls, Opens server.limit line := by
  induction ls generalizing server with
  | nil => simp [after_nil]
  | cons line rest ih =>
    simp only [after_cons, ih, ready_written, limit_written_receive, List.mem_cons, exists_eq_or_imp,
      or_assoc]

lemma Receives.refuses {server after : Server σ} {line : Bytes} {response : Option Response}
    (h : Receives server line response after) (hready : server.ready = false)
    (hline : ¬ Opens server.limit line) :
    after = server ∧ ∀ r, response = some r → r.outcome.IsRefusal := by
  cases h with
  | blank _ => exact ⟨rfl, fun r hr => by cases hr⟩
  | unreadable _ =>
    refine ⟨rfl, ?_⟩
    rintro _ ⟨⟩
    exact Or.inl rfl
  | otherVersion _ _ =>
    refine ⟨rfl, ?_⟩
    rintro _ ⟨⟩
    exact Or.inr (Or.inl rfl)
  | notReady _ _ _ _ =>
    refine ⟨rfl, ?_⟩
    intro r hr
    obtain ⟨id, _, rfl⟩ := Option.map_eq_some_iff.mp hr
    exact Or.inr (Or.inr rfl)
  | answered hl hv ho =>
    rcases ho with ho | ho
    · rw [hready] at ho
      cases ho
    · exact absurd ((opens_iff hl).mpr ⟨hv, ho⟩) hline

lemma after_of_not_opens {server : Server σ} (hready : server.ready = false) {ls : List Bytes}
    (h : ∀ line ∈ ls, ¬ Opens server.limit line) :
    server.after ls = server ∧ ∀ r, some r ∈ server.responses ls → r.outcome.IsRefusal := by
  induction ls with
  | nil => exact ⟨rfl, fun r hr => absurd hr List.not_mem_nil⟩
  | cons line rest ih =>
    obtain ⟨hline, hrest⟩ := List.forall_mem_cons.mp h
    obtain ⟨hw, hr⟩ := (server.receives line).refuses hready hline
    obtain ⟨ha, hrs⟩ := ih hrest
    rw [after_cons, responses, hw]
    refine ⟨ha, ?_⟩
    intro r hs
    rcases List.mem_cons.mp hs with hs | hs
    · exact hr r hs.symm
    · exact hrs r hs

lemma Receives.not_notReady {server after : Server σ} {line : Bytes} {response : Option Response}
    (h : Receives server line response after) (hready : server.ready = true) {r : Response}
    (hr : response = some r) : r.outcome ≠ .error .notReady := by
  intro he
  cases h with
  | blank _ => cases hr
  | unreadable _ =>
    cases hr
    cases he
  | otherVersion _ _ =>
    cases hr
    injection he with he
    exact RpcError.invalidRequest_ne_notReady he
  | notReady _ _ hclosed _ =>
    rw [hready] at hclosed
    cases hclosed
  | answered _ _ _ =>
    rcases (Request.answered_answer hr).code he with hc | hc
    · exact absurd hc (by decide)
    · exact absurd hc (by decide)

lemma responses_of_ready {server : Server σ} (hready : server.ready = true) {ls : List Bytes}
    {r : Response} (h : some r ∈ server.responses ls) : r.outcome ≠ .error .notReady := by
  induction ls generalizing server with
  | nil => exact absurd h List.not_mem_nil
  | cons line rest ih =>
    rcases List.mem_cons.mp h with h | h
    · exact (server.receives line).not_notReady hready h.symm
    · exact ih ((ready_written server line).mpr (Or.inl hready)) h

lemma ready_unwritten (server : Server σ) (line : Bytes) :
    (server.receive line).unwritten.ready = server.ready := by
  simp only [receive, receiveText, handle, refuse, say]
  repeat' split
  all_goals rfl

lemma ready_serveFrom (server : Server σ) (input : Input) (output : Output) (events : List Event)
    (hready : server.ready = true) :
    (serveFrom server input output events).server.ready = true := by
  have hw : ∀ (s : Server σ) (line : Bytes), s.ready = true → (s.receive line).written.ready = true :=
    fun s line h => (ready_written s line).mpr (Or.inl h)
  fun_induction serveFrom server input output events with
  | case1 | case2 => exact hready
  | case3 => exact (ready_unwritten _ _).trans hready
  | case4 => exact hw _ _ hready
  | case5 server _ _ _ _ _ _ _ _ _ _ _ _ _ _ ih => exact ih (hw _ _ hready)
  | case6 server _ _ _ _ _ _ _ _ _ _ _ _ ih => exact ih (hw _ _ hready)

end Server

/-- A closed server is open behind some lines just when one of them has opened it. Before that each
response is a refusal and no word is drawn; from then on no line is refused for its being closed, and
nothing closes it again, however the reading or the writing may fail. -/
theorem ready_iff_opened (server : Server σ) (hclosed : server.ready = false)
    {buffers : List Bytes} (hm : server.Measures buffers.flatten) {earlier later : List Bytes}
    (hlines : lines buffers.flatten = earlier ++ later) :
    let served := server.serve (.ofBuffers buffers) .unbounded
    let reached := server.after earlier
    (served.server = reached.after later ∧
        served.output.bytes =
          (server.responses earlier ++ reached.responses later).flatMap responseBytes) ∧
      (reached.ready = true ↔ ∃ line ∈ earlier, Opens server.limit line) ∧
      (reached.ready = false → reached.source = server.source ∧
        ∀ r, some r ∈ server.responses earlier → r.outcome.IsRefusal) ∧
      (reached.ready = true →
        (∀ r, some r ∈ reached.responses later → r.outcome ≠ .error .notReady) ∧
        ∀ input output, (reached.serve input output).server.ready = true) := by
  intro served reached
  have hready : reached.ready = true ↔ ∃ line ∈ earlier, Opens server.limit line := by
    rw [Server.ready_after, hclosed]
    simp
  refine ⟨?_, hready, ?_, ?_⟩
  · obtain ⟨hs, ho⟩ := server.serve_ofBuffers hm
    rw [hlines] at hs ho
    rw [Server.after_append] at hs
    rw [Server.responses_append] at ho
    exact ⟨hs, ho⟩
  · intro hr
    have hn : ∀ line ∈ earlier, ¬ Opens server.limit line := by
      intro line hline ho
      rw [hready.mpr ⟨line, hline, ho⟩] at hr
      cases hr
    obtain ⟨ha, hrs⟩ := Server.after_of_not_opens hclosed hn
    exact ⟨congrArg Server.source ha, hrs⟩
  · intro hr
    exact ⟨fun r h => Server.responses_of_ready hr h,
      fun input output => Server.ready_serveFrom reached input output [] hr⟩

theorem ready_behind_handshake :
    let server : Server Replay := ⟨40, .ofList [], false⟩
    let ping := Text.bytes "[\"2.0\",1,\"ping\",null]\n"
    let other := Text.bytes "[\"1.0\",2,\"initialize\",null]\n"
    let first := Text.bytes "[\"2.0\",3,\"initialize\",false]\n"
    let buffers := [ping ++ other, first ++ ping]
    let reached := server.after [ping, other, first]
    server.ready = false ∧ server.Measures buffers.flatten ∧
      lines buffers.flatten = [ping, other, first] ++ [ping] ∧
      lineRequest? 40 first = some ⟨"2.0", some (.number 3), "initialize", some (.bool false)⟩ ∧
      reached.ready = true ∧
      ∀ r, some r ∈ reached.responses [ping] → r.outcome ≠ .error .notReady := by
  intro server ping other first buffers reached
  have hm : server.Measures buffers.flatten := Or.inl (by decide)
  have hl : lines buffers.flatten = [ping, other, first] ++ [ping] := by decide
  have hr : lineRequest? 40 first =
      some ⟨"2.0", some (.number 3), "initialize", some (.bool false)⟩ := by
    rw [lineRequest?_bytes (by decide)]
    cbv
  obtain ⟨_, hopen, _, hstays⟩ := ready_iff_opened server rfl hm hl
  have hready : reached.ready = true := by
    apply hopen.mpr
    exact ⟨first, by simp, _, hr, rfl, rfl⟩
  exact ⟨rfl, hm, hl, hr, hready, (hstays hready).1⟩

end TemplateServer
