import Mathlib
import TemplateServer.Proofs.Protocol.Envelope
import TemplateServer.Proofs.Session.Spelling

/-! Which lines of JSON are answered with the parse error, and which as invalid requests. -/

namespace TemplateServer

open Json

structure Carries (limit : Nat) (line : Bytes) (f : Form) (v : Json) : Prop where
  length : line.length ≤ limit
  read : ∃ message, Text.ofBytes? line = some message ∧ Form.read? message.trim = some f
  value : f.value? maxDepth = some v

def Request.Stands (f : Form) (v : Json) (r : Request) : Prop :=
  f.SpellsOnce Request.keys ∧ Request.Denotes v r

lemma Request.decodeText?_eq_some_iff {s : Text} {f : Form} {v : Json}
    (hf : Form.read? s = some f) (hv : f.value? maxDepth = some v) {r : Request} :
    decodeText? s = some r ↔ Request.Stands f v r := by
  constructor
  · intro h
    have honce : f.SpellsOnce keys := by
      rw [decodeText?, hf, Option.bind_some] at h
      obtain ⟨g, hg, _⟩ := Option.bind_eq_some_iff.mp h
      exact Form.spellsOnce_of_select? hg
    rw [decodeText?_eq_decode rfl decode_congr hf hv honce] at h
    refine ⟨honce, decode_eq_ok_iff_denotes.mp ?_⟩
    cases hd : (Decodable.decode v : Decoded Request) with
    | error e =>
      rw [hd] at h
      cases h
    | ok x =>
      rw [hd] at h
      cases h
      rfl
  · rintro ⟨honce, hdenotes⟩
    rw [decodeText?_eq_decode rfl decode_congr hf hv honce,
      decode_eq_ok_iff_denotes.mpr hdenotes]
    rfl

namespace Carries

variable {limit : Nat} {line : Bytes} {f : Form} {v : Json}

lemma lineRequest?_eq_some_iff (h : Carries limit line f v) {r : Request} :
    lineRequest? limit line = some r ↔ Request.Stands f v r := by
  obtain ⟨message, hm, hf⟩ := h.read
  rw [lineRequest?, if_neg (Nat.not_lt.mpr h.length), hm, Option.bind_some,
    Request.decodeText?_eq_some_iff hf h.value]

end Carries

def errorCode? (response : Option Response) : Option Int :=
  response.bind fun r => match r.outcome with
    | .result _ => none
    | .error e => some e.code

lemma errorCode?_error (id : Option RequestId) (e : RpcError) :
    errorCode? (some (.error id e)) = some e.code := rfl

lemma error_of_errorCode? {response : Option Response} {code : Int}
    (h : errorCode? response = some code) :
    ∃ r e, response = some r ∧ r.outcome = .error e ∧ e.code = code := by
  obtain ⟨r, hr, h⟩ := Option.bind_eq_some_iff.mp h
  cases ho : r.outcome with
  | result v =>
    rw [ho] at h
    cases h
  | error e =>
    rw [ho] at h
    exact ⟨r, e, hr, ho, Option.some_inj.mp h⟩

namespace Server

variable {σ : Type} [WordSource σ]

lemma receive_of_carries {server : Server σ} {line : Bytes} {f : Form} {v : Json}
    (h : Carries server.limit line f v) (hr : lineRequest? server.limit line = none) :
    server.receive line = server.refuse .malformed := by
  obtain ⟨message, hm, hf⟩ := h.read
  have hne : message.trim.isEmpty = false := by
    cases ht : message.trim with
    | nil =>
      rw [ht, Form.read?, Token.scan, Token.scanFrom_nil] at hf
      cases hf
    | cons c rest => rfl
  have hlimit : ¬ server.limit < line.length := Nat.not_lt.mpr h.length
  rw [lineRequest?, if_neg hlimit, hm, Option.bind_some] at hr
  simp only [receive, if_neg hlimit, hm, receiveText, hne, Bool.false_eq_true, if_false, hr]

def Bars (server : Server σ) (r : Request) : Prop :=
  r.version ≠ "2.0" ∨ server.ready = false ∧ r.method ≠ Method.handshake.name ∧ r.id ≠ none

lemma Receives.errorCode?_cases {server after : Server σ} {line : Bytes}
    {response : Option Response} (h : Receives server line response after) {r : Request}
    (hr : lineRequest? server.limit line = some r) :
    errorCode? response ≠ some (-32700) ∧
      (errorCode? response = some (-32600) ↔ server.Bars r) := by
  cases h with
  | blank hl | unreadable hl => cases hl.symm.trans hr
  | otherVersion hl hv =>
    cases hl.symm.trans hr
    rw [errorCode?_error]
    exact ⟨by decide, iff_of_true rfl (Or.inl hv)⟩
  | notReady hl hv hready hm =>
    cases hl.symm.trans hr
    cases hid : r.id with
    | none =>
      refine ⟨nofun, iff_of_false nofun ?_⟩
      rintro (hne | ⟨_, _, hne⟩)
      · exact hne hv
      · exact hne hid
    | some id =>
      rw [Option.map_some, errorCode?_error]
      refine ⟨by decide, iff_of_true rfl (Or.inr ⟨hready, hm, ?_⟩)⟩
      rw [hid]
      exact Option.some_ne_none id
  | answered hl hv ho =>
    cases hl.symm.trans hr
    -- what the handlers refuse has codes of its own
    have hcode : ∀ code, errorCode? (r.answer server.source).response = some code →
        code = -32601 ∨ code = -32602 := by
      intro code h
      obtain ⟨x, e, hx, he, rfl⟩ := error_of_errorCode? h
      exact (Request.answered_answer hx).code he
    have hbars : ¬ server.Bars r := by
      rintro (hne | ⟨hready, hm, _⟩)
      · exact hne hv
      · rcases ho with ho | ho
        · rw [hready] at ho
          cases ho
        · exact hm ho
    exact ⟨fun h => absurd (hcode _ h) (by decide),
      iff_of_false (fun h => absurd (hcode _ h) (by decide)) hbars⟩

end Server

variable {σ : Type} [WordSource σ]

theorem receive_json_error_iff (server : Server σ) {line : Bytes} {f : Form} {v : Json}
    (h : Carries server.limit line f v) :
    let step := server.receive line
    (errorCode? step.response = some (-32700) ↔ ∀ r, ¬ Request.Stands f v r) ∧
      (errorCode? step.response = some (-32600) ↔ ∃ r, Request.Stands f v r ∧ server.Bars r) ∧
      ((∀ r, ¬ Request.Stands f v r) →
        step.response = some (.error none .parse) ∧ step.written = server) := by
  intro step
  cases hr : lineRequest? server.limit line with
  | none =>
    have hnone : ∀ r, ¬ Request.Stands f v r := by
      intro r hstands
      rw [h.lineRequest?_eq_some_iff.mpr hstands] at hr
      cases hr
    have hstep : step = server.refuse .malformed := Server.receive_of_carries h hr
    have hresponse : step.response = some (.error none .parse) := by rw [hstep]; rfl
    have hwritten : step.written = server := by rw [hstep]; rfl
    rw [hresponse, errorCode?_error]
    refine ⟨iff_of_true rfl hnone, iff_of_false (by decide) ?_, fun _ => ⟨rfl, hwritten⟩⟩
    rintro ⟨r, hstands, _⟩
    exact hnone r hstands
  | some r =>
    have hstands : Request.Stands f v r := h.lineRequest?_eq_some_iff.mp hr
    obtain ⟨hparse, hinvalid⟩ := (server.receives line).errorCode?_cases hr
    refine ⟨iff_of_false hparse fun hnone => hnone r hstands, hinvalid.trans ?_,
      fun hnone => absurd hstands (hnone r)⟩
    constructor
    · exact fun hbars => ⟨r, hstands, hbars⟩
    · rintro ⟨r', hstands', hbars⟩
      cases hr.symm.trans (h.lineRequest?_eq_some_iff.mpr hstands')
      exact hbars

theorem receive_json_error_iff_versions :
    let server : Server Replay := ⟨60, .ofList [], true⟩
    let message : Text := "[\"1.0\",3,\"ping\",null]\n"
    let form : Form := .array [.string (("1.0" : Text).map .char), .number ⟨false, ['3'], [], none⟩,
      .string (("ping" : Text).map .char), .null]
    let value : Json := .arr [.str "1.0", .int 3, .str "ping", .null]
    let twice : Text :=
      "\x7b\"jsonrpc\":\"2.0\",\"jsonrpc\":\"2.0\",\"method\":\"ping\"\x7d\n"
    let version : Spelling × Form :=
      (("jsonrpc" : Text).map .char, .string (("2.0" : Text).map .char))
    let form' : Form := .object [version, version,
      (("method" : Text).map .char, .string (("ping" : Text).map .char))]
    let value' : Json := .obj [("jsonrpc", .str "2.0"), ("method", .str "ping")]
    Carries 60 message.bytes form value ∧ Carries 60 twice.bytes form' value' ∧
      errorCode? (server.receive message.bytes).response = some (-32600) ∧
      errorCode? (server.receive twice.bytes).response = some (-32700) := by
  intro server message form value twice version form' value'
  have hread : Form.read? message.trim = some form := by
    subst message form
    cbv
  have hvalue : form.value? maxDepth = some value := by
    subst form value
    cbv
  have hread' : Form.read? twice.trim = some form' := by
    subst twice form' version
    cbv
  have hvalue' : form'.value? maxDepth = some value' := by
    subst form' value' version
    cbv
  have h : Carries 60 message.bytes form value :=
    ⟨by decide, ⟨message, Text.ofBytes?_bytes message, hread⟩, hvalue⟩
  have h' : Carries 60 twice.bytes form' value' :=
    ⟨by decide, ⟨twice, Text.ofBytes?_bytes twice, hread'⟩, hvalue'⟩
  obtain ⟨_, hinvalid, _⟩ := receive_json_error_iff server h
  obtain ⟨hparse, _⟩ := receive_json_error_iff server h'
  have hid : Maybe RequestId.Denotes (some (.int 3)) (some (.number 3)) :=
    .given Json.noConfusion ⟨rfl, by decide, by decide⟩
  have hstands : Request.Stands form value ⟨"1.0", some (.number 3), "ping", none⟩ :=
    ⟨trivial, .items (r := ⟨"1.0", some (.number 3), "ping", none⟩) hid .null⟩
  refine ⟨h, h', hinvalid.mpr ⟨_, hstands, Or.inl (by decide)⟩, hparse.mpr ?_⟩
  rintro r ⟨honce, _⟩
  exact absurd (honce "jsonrpc" (by decide)) (by decide)

theorem receive_empty_object :
    let server : Server Replay := ⟨Config.defaultLimit, .ofList [], false⟩
    let line := Text.bytes "\x7b\x7d\n"
    Carries Config.defaultLimit line (.object []) (.obj []) ∧
      errorCode? (server.receive line).response = some (-32700) ∧
      errorCode? (server.receive line).response ≠ some (-32600) ∧
      (server.serve (.ofBuffers [line]) .unbounded).output.bytes =
        Text.bytes ("\x7b\"jsonrpc\":\"2.0\",\"error\":" ++
          "\x7b\"code\":-32700,\"message\":\"Parse error\"\x7d\x7d\n") := by
  intro server line
  have h : Carries Config.defaultLimit line (.object []) (.obj []) :=
    ⟨by decide, ⟨_, Text.ofBytes?_bytes _, by cbv⟩, by cbv⟩
  have hr : lineRequest? Config.defaultLimit line = none := by
    rw [lineRequest?_bytes (by decide)]
    cbv
  have hreceive : server.receive line = server.refuse .malformed := Server.receive_of_carries h hr
  have hcode : errorCode? (server.receive line).response = some (-32700) := by
    rw [hreceive]
    rfl
  have hl : lines [line].flatten = [line] := by decide
  refine ⟨h, hcode, ?_, ?_⟩
  · rw [hcode]
    decide
  · rw [(server.serve_ofBuffers (Or.inl (by decide))).2, hl, Server.responses, hreceive]
    decide

end TemplateServer
