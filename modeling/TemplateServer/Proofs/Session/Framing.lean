import Mathlib
import TemplateServer.Proofs.Protocol.Response
import TemplateServer.Proofs.Session.Serving

/-! The output as a row of lines that a client can match with its requests. -/

namespace TemplateServer

open Json

variable {σ : Type} [WordSource σ]

lemma Response.sound_error {id : Option RequestId} (hid : ∀ i ∈ id, i.InRange) {e : RpcError}
    (h : isReadable 126 e.json = true) : (Response.error id e).Sound :=
  ⟨hid, readable_of_isReadable h⟩

namespace Request

lemma Answered.sound {r : Request} (hid : ∀ i ∈ r.id, i.InRange) {response : Response}
    (h : r.Answered response) : response.Sound := by
  cases h with
  | unknown => exact Response.sound_error hid rfl
  | params detail => exact Response.sound_error hid rfl
  | @failure f _ =>
    obtain ⟨code, message⟩ := f
    apply Response.sound_error hid
    cases code <;> rfl
  | refusal _ => exact ⟨hid, readable_of_isReadable rfl⟩
  | result hv => exact ⟨hid, hv.readable⟩

end Request

/-- What becomes of a line: a response to it is itself a line, with the id of the request if there
is one, and a request with an id has a response if it is not the one that only notifies. -/
structure Settled (limit : Nat) (line : Bytes) (response : Option Response) : Prop where
  framed : ∀ r ∈ response, Response.Framed r.line.bytes ((lineRequest? limit line).bind (·.id))
  answered : ∀ request, lineRequest? limit line = some request → request.id.isSome →
    request.method ≠ Method.handshakeDone.name → response.isSome

namespace Server

lemma Receives.sound {server after : Server σ} {line : Bytes} {response : Option Response}
    (h : Receives server line response after) {r : Response} (hr : response = some r) :
    r.Sound ∧ r.id = (lineRequest? server.limit line).bind (·.id) := by
  cases h with
  | blank _ => cases hr
  | unreadable hl =>
    cases hr
    rw [hl]
    exact ⟨Response.sound_error (fun _ hi => by cases hi) rfl, rfl⟩
  | otherVersion hl _ =>
    cases hr
    rw [hl]
    exact ⟨Response.sound_error (inRange_of_lineRequest? hl) rfl, rfl⟩
  | notReady hl _ _ _ =>
    obtain ⟨id, hid, rfl⟩ := Option.map_eq_some_iff.mp hr
    rw [hl, ← hid]
    exact ⟨Response.sound_error (inRange_of_lineRequest? hl) rfl, rfl⟩
  | answered hl _ _ =>
    have ha := Request.answered_answer hr
    rw [hl]
    exact ⟨ha.sound (inRange_of_lineRequest? hl), ha.id⟩

lemma Receives.isSome {server after : Server σ} {line : Bytes} {response : Option Response}
    (h : Receives server line response after) {request : Request}
    (hline : lineRequest? server.limit line = some request) (hid : request.id.isSome)
    (hm : request.method ≠ Method.handshakeDone.name) : response.isSome := by
  cases h with
  | blank hl | unreadable hl => cases hl.symm.trans hline
  | otherVersion _ _ => rfl
  | notReady hl _ _ _ =>
    cases hl.symm.trans hline
    rwa [Option.isSome_map]
  | answered hl _ _ =>
    cases hl.symm.trans hline
    exact Request.answer_isSome hid hm server.source

lemma Receives.settled {server after : Server σ} {line : Bytes} {response : Option Response}
    (h : Receives server line response after) : Settled server.limit line response := by
  constructor
  · intro r hr
    obtain ⟨hs, hid⟩ := h.sound hr
    rw [← hid]
    exact Response.framed_line hs
  · intro request hline hid hm
    exact h.isSome hline hid hm

lemma settled_responses (server : Server σ) (ls : List Bytes) :
    List.Forall₂ (Settled server.limit) ls (server.responses ls) := by
  induction ls generalizing server with
  | nil => exact .nil
  | cons line rest ih =>
    apply List.Forall₂.cons (server.receives line).settled
    rw [← limit_written_receive server line]
    exact ih _

end Server

theorem serve_frames_responses (server : Server σ) {buffers : List Bytes}
    (hm : server.Measures buffers.flatten) :
    let segments := lines buffers.flatten
    let responses := server.responses segments
    (server.serve (.ofBuffers buffers) .unbounded).output.bytes = responses.flatMap responseBytes ∧
      List.Forall₂ (Settled server.limit) segments responses :=
  ⟨(server.serve_ofBuffers hm).2, server.settled_responses _⟩

theorem serve_frames_unknown_method :
    let server : Server Replay := ⟨30, .ofList [], true⟩
    let line := Text.bytes "[\"2.0\",7,\"a\\nb\",null]\n"
    let buffers := [line.take 9, line.drop 9]
    server.Measures buffers.flatten ∧
      lineRequest? 30 line = some ⟨"2.0", some (.number 7), "a\nb", none⟩ ∧
      Response.Framed (server.serve (.ofBuffers buffers) .unbounded).output.bytes
        (some (.number 7)) := by
  intro server line buffers
  have hm : server.Measures buffers.flatten := Or.inl (by decide)
  have hl : lines buffers.flatten = [line] := by decide
  have hr : lineRequest? 30 line = some ⟨"2.0", some (.number 7), "a\nb", none⟩ := by
    rw [lineRequest?_bytes (by decide)]
    cbv
  obtain ⟨ho, hs⟩ := serve_frames_responses server hm
  rw [hl] at ho hs
  obtain ⟨hs, _⟩ := List.forall₂_cons.mp hs
  refine ⟨hm, hr, ?_⟩
  obtain ⟨r, hsome⟩ := Option.isSome_iff_exists.mp (hs.answered _ hr rfl (by decide))
  have hf := hs.framed r hsome
  rw [hr] at hf
  rw [ho]
  simpa [Server.responses, hsome, responseBytes] using hf

end TemplateServer
