import Mathlib
import TemplateServer.Proofs.Json.Blanks
import TemplateServer.Proofs.Json.Selection
import TemplateServer.Proofs.Session.Serving

/-! Two lines that spell one request in their own ways are settled alike. -/

namespace TemplateServer

open Json

namespace Request

def keys : List Text := ["jsonrpc", "id", "method", "params"]

lemma decode_congr {v w : Json} (h : Agree keys v w) :
    (Decodable.decode v : Decoded Request) = Decodable.decode w := by
  cases h with
  | same => rfl
  | @members ms ns h =>
    have hmember : ∀ {α : Type} {key : Text} (decode : Json → Decoded α), key ∈ keys →
        ms.member? key decode = ns.member? key decode :=
      fun decode hkey => Members.member?_congr (h _ hkey) decode
    change ofMembers ms = ofMembers ns
    rw [ofMembers, ofMembers, hmember _ (by simp [keys]), hmember _ (by simp [keys]),
      hmember _ (by simp [keys]), hmember _ (by simp [keys])]

structure Spells (s : Text) (v : Json) : Prop where
  read : read? s = some v
  once : ∀ f, Form.read? s = some f → f.SpellsOnce keys

namespace Spells

variable {s : Text} {v : Json}

lemma of_all (h : read? s = some v)
    (honce : (Form.read? s).all (fun f => decide (f.SpellsOnce keys)) = true) : Spells s v := by
  refine ⟨h, ?_⟩
  intro f hf
  rw [hf, Option.all_some] at honce
  exact of_decide_eq_true honce

lemma decodeText?_eq (h : Spells s v) :
    (decodeText? s : Option Request) = (Decodable.decode v : Decoded Request).toOption := by
  obtain ⟨f, hf, hv⟩ := Option.bind_eq_some_iff.mp h.read
  exact decodeText?_eq_decode rfl decode_congr hf hv (h.once f hf)

lemma trim (h : Spells s v) : Spells s.trim v := by
  obtain ⟨f, hf, hv⟩ := Option.bind_eq_some_iff.mp h.read
  have hform := formRead?_trim hf
  constructor
  · rw [read?, hform, Option.bind_some, hv]
  · intro g hg
    rw [hform] at hg
    cases hg
    exact h.once f hf

lemma ne_nil (h : Spells s v) : s ≠ [] := by
  rintro rfl
  have hread := h.read
  rw [read?, Form.read?, Token.scan, Token.scanFrom_nil] at hread
  cases hread

end Spells

end Request

def Holds (limit : Nat) (line : Bytes) (v : Json) : Prop :=
  line.length ≤ limit ∧ ∃ message, Text.ofBytes? line = some message ∧
    Request.Spells message.trim v

inductive Alike (limit : Nat) : Bytes → Bytes → Prop
  | same (line : Bytes) : Alike limit line line
  | held {line line' : Bytes} {v v' : Json} : Holds limit line v → Holds limit line' v' →
      Agree Request.keys v v' → Alike limit line line'

namespace Server

variable {σ : Type} [WordSource σ]

lemma receive_of_holds {server : Server σ} {line : Bytes} {v : Json}
    (h : Holds server.limit line v) :
    server.receive line = match (Decodable.decode v : Decoded Request) with
      | .ok r => server.handle r
      | .error _ => server.refuse .malformed := by
  obtain ⟨hlimit, message, hm, hspells⟩ := h
  have hne : message.trim.isEmpty = false := List.isEmpty_eq_false_iff.mpr hspells.ne_nil
  simp only [receive, if_neg (Nat.not_lt.mpr hlimit), hm, receiveText, hne, Bool.false_eq_true,
    if_false, hspells.decodeText?_eq]
  cases (Decodable.decode v : Decoded Request) <;> rfl

lemma receive_eq_of_alike {server : Server σ} {line line' : Bytes}
    (h : Alike server.limit line line') : server.receive line = server.receive line' := by
  cases h with
  | same => rfl
  | held h h' hv => rw [receive_of_holds h, receive_of_holds h', Request.decode_congr hv]

lemma after_eq_of_alike {server : Server σ} {ls ms : List Bytes}
    (h : List.Forall₂ (Alike server.limit) ls ms) :
    server.after ls = server.after ms ∧ server.responses ls = server.responses ms := by
  induction ls generalizing server ms with
  | nil =>
    cases h
    exact ⟨rfl, rfl⟩
  | cons line ls ih =>
    cases h with
    | @cons _ line' _ ms hline hrest =>
      have hr := receive_eq_of_alike hline
      rw [← limit_written_receive server line] at hrest
      obtain ⟨ha, hs⟩ := ih hrest
      rw [after_cons, after_cons, responses, responses, ← hr, ha, hs]
      exact ⟨rfl, rfl⟩

end Server

theorem decodeText?_iff_decode :
    (∀ {s : Text} {v : Json}, Request.Spells s v →
        (∀ r : Request, decodeText? s = some r ↔ Decodable.decode v = .ok r) ∧
          Request.Spells s.trim v) ∧
      (∀ {σ : Type} [WordSource σ] (server : Server σ) {line line' : Bytes} {v v' : Json},
        Holds server.limit line v → Holds server.limit line' v' → Agree Request.keys v v' →
          server.receive line = server.receive line') ∧
      ∀ {σ : Type} [WordSource σ] (server : Server σ) {buffers buffers' : List Bytes},
        server.Measures buffers.flatten → server.Measures buffers'.flatten →
        List.Forall₂ (Alike server.limit) (lines buffers.flatten) (lines buffers'.flatten) →
          let served := server.serve (.ofBuffers buffers) .unbounded
          let served' := server.serve (.ofBuffers buffers') .unbounded
          served.server = served'.server ∧ served.output.bytes = served'.output.bytes := by
  refine ⟨?_, ?_, ?_⟩
  · intro s v h
    refine ⟨?_, h.trim⟩
    intro r
    rw [h.decodeText?_eq]
    cases (Decodable.decode v : Decoded Request) with
    | error e => simp [Except.toOption]
    | ok x => simp [Except.toOption]
  · intro σ _ server line line' v v' h h' hv
    exact Server.receive_eq_of_alike (.held h h' hv)
  · intro σ _ server buffers buffers' hm hm' hlines served served'
    obtain ⟨hs, ho⟩ := server.serve_ofBuffers hm
    obtain ⟨hs', ho'⟩ := server.serve_ofBuffers hm'
    obtain ⟨ha, hr⟩ := Server.after_eq_of_alike hlines
    exact ⟨hs.trans (ha.trans hs'.symm), by rw [ho, hr, ho']⟩

theorem decodeText?_iff_decode_respelled :
    let server : Server Replay := ⟨80, .ofList [], true⟩
    let message : Text := "\x7b\"jsonrpc\":\"2.0\",\"id\":7,\"method\":\"ping\"\x7d\n"
    let other : Text :=
      "\u00a0\x7b\"x\":[1],\"method\" : \"p\\u0069ng\",\"x\":1,\"id\":7,\"jsonrpc\":\"2.0\"\x7d\r\n"
    let value : Json := .obj [("id", .int 7), ("jsonrpc", .str "2.0"), ("method", .str "ping")]
    let value' : Json :=
      .obj [("id", .int 7), ("jsonrpc", .str "2.0"), ("method", .str "ping"), ("x", .int 1)]
    Request.Spells message.trim value ∧
      (decodeText? message.trim : Option Request) = some ⟨"2.0", some (.number 7), "ping", none⟩ ∧
      Holds 80 message.bytes value ∧ Holds 80 other.bytes value' ∧
      Agree Request.keys value value' ∧
      server.receive message.bytes = server.receive other.bytes ∧
      server.Measures [message.bytes].flatten ∧ server.Measures [other.bytes].flatten ∧
      List.Forall₂ (Alike 80) (lines [message.bytes].flatten) (lines [other.bytes].flatten) ∧
      (server.serve (.ofBuffers [message.bytes]) .unbounded).output.bytes =
        (server.serve (.ofBuffers [other.bytes]) .unbounded).output.bytes := by
  intro server message other value value'
  have hspells : Request.Spells message.trim value := by
    apply Request.Spells.of_all
    · subst message value
      cbv
    · subst message
      cbv
  have hspells' : Request.Spells other.trim value' := by
    apply Request.Spells.of_all
    · subst other value'
      cbv
    · subst other
      cbv
  have hholds : Holds 80 message.bytes value :=
    ⟨by decide, message, Text.ofBytes?_bytes message, hspells⟩
  have hholds' : Holds 80 other.bytes value' :=
    ⟨by decide, other, Text.ofBytes?_bytes other, hspells'⟩
  have hagree : Agree Request.keys value value' := by
    refine .members ?_
    simp only [Request.keys, List.forall_mem_cons]
    exact ⟨rfl, rfl, rfl, rfl, List.forall_mem_nil _⟩
  have hm : server.Measures [message.bytes].flatten := Or.inl (by decide)
  have hm' : server.Measures [other.bytes].flatten := Or.inl (by decide)
  have hlines : List.Forall₂ (Alike 80) (lines [message.bytes].flatten)
      (lines [other.bytes].flatten) := by
    have hline : lines [message.bytes].flatten = [message.bytes] := by decide
    have hline' : lines [other.bytes].flatten = [other.bytes] := by decide
    rw [hline, hline']
    exact .cons (.held hholds hholds' hagree) .nil
  obtain ⟨hdecode, hreceive, hserve⟩ := decodeText?_iff_decode
  obtain ⟨hrequest, _⟩ := hdecode hspells
  exact ⟨hspells, (hrequest _).mpr rfl, hholds, hholds', hagree,
    hreceive server hholds hholds' hagree, hm, hm', hlines, (hserve server hm hm' hlines).2⟩

end TemplateServer
