import Mathlib
import TemplateServer.Proofs.Protocol.Failure
import TemplateServer.Proofs.Session.Framing

/-! Failures as a client finds them in the responses of a session. -/

namespace TemplateServer

open Json

namespace Json

/-- What a response tells of a failure: the data of an error, or what the text of a result reads as
that is marked as an error. -/
inductive Tells (v d : Json) : Prop
  | data {e : Json} : v.get? "error" = some e → e.get? "data" = some d → Tells v d
  | text {result content : Json} {text : Text} : v.get? "result" = some result →
      result.get? "isError" = some (.bool true) → result.get? "content" = some (.arr [content]) →
      content.get? "text" = some (.str text) → read? text = some d → Tells v d

def Fails (v : Json) : Prop :=
  (∃ e ∈ v.get? "error", (e.get? "data").isSome) ∨
    ∃ result ∈ v.get? "result", (result.get? "isError").isSome

end Json

lemma RpcError.get?_data_sorted_json (e : RpcError) :
    e.json.sorted.get? "data" = e.data.map sorted := by
  obtain ⟨code, message, data⟩ := e
  cases data <;> rfl

namespace Response

lemma error_of_get?_sorted_json {r : Response} {e : Json}
    (h : r.json.sorted.get? "error" = some e) :
    ∃ error, r.outcome = .error error ∧ e = error.json.sorted := by
  obtain ⟨id, outcome⟩ := r
  cases id <;> cases outcome <;> cases h <;> exact ⟨_, rfl, rfl⟩

lemma result_of_get?_sorted_json {r : Response} {v : Json}
    (h : r.json.sorted.get? "result" = some v) :
    ∃ result, r.outcome = .result result ∧ v = result.sorted := by
  obtain ⟨id, outcome⟩ := r
  cases id <;> cases outcome <;> cases h <;> exact ⟨_, rfl, rfl⟩

lemma get?_sorted_json_of_error {r : Response} {e : RpcError} (h : r.outcome = .error e) :
    r.json.sorted.get? "error" = some e.json.sorted := by
  obtain ⟨id, outcome⟩ := r
  cases h
  cases id <;> rfl

lemma get?_sorted_json_of_result {r : Response} {v : Json} (h : r.outcome = .result v) :
    r.json.sorted.get? "result" = some v.sorted := by
  obtain ⟨id, outcome⟩ := r
  cases h
  cases id <;> rfl

inductive Frank (r : Response) : Prop
  | error {e : RpcError} : r.outcome = .error e → e.data = none → Frank r
  | failure {f : Failure} : f.Blames → r.outcome = .error (.ofFailure f) → Frank r
  | refusal {f : Failure} : f.Blames → r.outcome = .result (ToolResult.ofFailure f).json → Frank r
  | result {v : Json} : v.Plain → r.outcome = .result v → Frank r

lemma Frank.tells_of_fails {r : Response} (h : r.Frank) (hf : r.json.sorted.Fails) :
    ∃ d, r.json.sorted.Tells d := by
  cases h with
  | @error e ho hdata =>
    rcases hf with ⟨e', he, hd⟩ | ⟨v, hv, _⟩
    · rw [get?_sorted_json_of_error ho] at he
      cases he
      rw [e.get?_data_sorted_json, hdata] at hd
      cases hd
    · obtain ⟨_, ho', _⟩ := result_of_get?_sorted_json hv
      cases ho.symm.trans ho'
  | @failure f _ ho =>
    exact ⟨f.json.sorted, .data (get?_sorted_json_of_error ho) (RpcError.get?_data_sorted_json _)⟩
  | @refusal f _ ho =>
    exact ⟨f.json, .text (get?_sorted_json_of_result ho) rfl rfl rfl f.read?_line⟩
  | @result v hplain ho =>
    rcases hf with ⟨e, he, _⟩ | ⟨v', hv, hs⟩
    · obtain ⟨_, ho', _⟩ := error_of_get?_sorted_json he
      cases ho.symm.trans ho'
    · rw [get?_sorted_json_of_result ho] at hv
      cases hv
      rw [hplain.isError] at hs
      cases hs

lemma Frank.of_tells {r : Response} (h : r.Frank) {d : Json} (ht : r.json.sorted.Tells d) :
    ∃ f : Failure, f.Blames ∧ d = f.json := by
  cases ht with
  | @data e he hd =>
    obtain ⟨error, ho, rfl⟩ := error_of_get?_sorted_json he
    rw [error.get?_data_sorted_json] at hd
    cases h with
    | error ho' hdata =>
      cases ho.symm.trans ho'
      rw [hdata] at hd
      cases hd
    | @failure f hf ho' =>
      cases ho.symm.trans ho'
      cases hd
      exact ⟨f, hf, f.sorted_json⟩
    | refusal _ ho' | result _ ho' => cases ho.symm.trans ho'
  | @text v content text hv herror hcontent htext hread =>
    obtain ⟨result, ho, rfl⟩ := result_of_get?_sorted_json hv
    cases h with
    | error ho' _ | failure _ ho' => cases ho.symm.trans ho'
    | @refusal f hf ho' =>
      cases ho.symm.trans ho'
      cases hcontent
      cases htext
      exact ⟨f, hf, Option.some_inj.mp (hread.symm.trans f.read?_line)⟩
    | result hplain ho' =>
      cases ho.symm.trans ho'
      cases hplain.isError.symm.trans herror

end Response

variable {σ : Type} [WordSource σ]

lemma Request.Answered.frank {r : Request} {response : Response} (h : r.Answered response) :
    response.Frank := by
  cases h with
  | unknown | params _ => exact .error rfl rfl
  | failure hf => exact .failure hf rfl
  | refusal hf => exact .refusal hf rfl
  | result hv => exact .result hv rfl

namespace Server

lemma Receives.frank {server after : Server σ} {line : Bytes} {response : Option Response}
    (h : Receives server line response after) {r : Response} (hr : response = some r) : r.Frank := by
  cases h with
  | blank _ => cases hr
  | unreadable _ | otherVersion _ _ =>
    cases hr
    exact .error rfl rfl
  | notReady _ _ _ _ =>
    obtain ⟨id, _, rfl⟩ := Option.map_eq_some_iff.mp hr
    exact .error rfl rfl
  | answered _ _ _ => exact (Request.answered_answer hr).frank

lemma frank_of_mem_responses {server : Server σ} {ls : List Bytes} {r : Response}
    (h : some r ∈ server.responses ls) : r.Sound ∧ r.Frank := by
  obtain ⟨reached, line, hr⟩ := exists_receive_of_mem_responses h
  have hreceives := reached.receives line
  exact ⟨(hreceives.sound hr).1, hreceives.frank hr⟩

end Server

theorem failures_read_back :
    (∀ f : Failure,
      let result := ToolResult.ofFailure f
      let error := RpcError.ofFailure f
      (∃ body, result.text = body ++ ['\n'] ∧ '\n' ∉ body ∧ read? body = some f.json) ∧
        read? result.text = some f.json ∧ decodeText? result.text = some f ∧
        result.isError = true ∧ error.data = some f.json ∧ error.message = f.message ∧
        (Decodable.decode f.json : Decoded Failure) = .ok f) ∧
      ∀ {σ : Type} [WordSource σ] (server : Server σ) (buffers : List Bytes),
        server.Measures buffers.flatten →
        let responses := server.responses (lines buffers.flatten)
        (server.serve (.ofBuffers buffers) .unbounded).output.bytes =
            responses.flatMap responseBytes ∧
          ∀ r, some r ∈ responses → ∃ v, read? r.json.text = some v ∧
            (v.Fails → ∃ d, v.Tells d) ∧
            ∀ d, v.Tells d → ∃ f : Failure, f.message ≠ [] ∧
              d = .obj [("error",
                .obj [("code", .str f.code.name), ("message", .str f.message)])] := by
  constructor
  · intro f result error
    exact ⟨⟨f.json.text, rfl, f.readable_json.not_mem_text, f.read?_text_json⟩, f.read?_line,
      f.decodeText?_line, rfl, rfl, rfl, f.decode_json⟩
  · intro σ _ server buffers hm responses
    refine ⟨(server.serve_ofBuffers hm).2, ?_⟩
    intro r hr
    obtain ⟨hsound, hfrank⟩ := Server.frank_of_mem_responses hr
    refine ⟨r.json.sorted, read?_text (Response.readable_json hsound), hfrank.tells_of_fails, ?_⟩
    intro d hd
    obtain ⟨f, hf, rfl⟩ := hfrank.of_tells hd
    exact ⟨f, hf.message, rfl⟩

theorem failures_read_back_unknown_tool :
    let server : Server Replay := ⟨60, .ofList [], true⟩
    let line := Text.bytes "[\"2.0\",7,\"tools/call\",[\"a\\\"\\n\",null]]\n"
    server.Measures [line].flatten ∧
      lineRequest? 60 line = some ⟨"2.0", some (.number 7), "tools/call",
        some (.arr [.str "a\"\n", .null])⟩ ∧
      ∃ r v d, some r ∈ server.responses (lines [line].flatten) ∧ read? r.json.text = some v ∧
        v.Tells d ∧ ∃ f : Failure, f.message ≠ [] ∧
          d = .obj [("error",
            .obj [("code", .str f.code.name), ("message", .str f.message)])] := by
  intro server line
  have hm : server.Measures [line].flatten := Or.inl (by decide)
  have hl : lines [line].flatten = [line] := by decide
  have hr : lineRequest? 60 line = some ⟨"2.0", some (.number 7), "tools/call",
      some (.arr [.str "a\"\n", .null])⟩ := by
    rw [lineRequest?_bytes (by decide)]
    cbv
  have hresponse : some (Response.result (some (.number 7))
      (ToolResult.ofFailure ⟨.unknownTool, "Unknown tool: a\"\n"⟩).json) ∈
        server.responses (lines [line].flatten) := by
    rw [hl, Server.responses, Server.receive_of_lineRequest? hr]
    exact List.mem_cons_self
  obtain ⟨v, hv, htells, hform⟩ := (failures_read_back.2 server [line] hm).2 _ hresponse
  have hsound := (Server.frank_of_mem_responses hresponse).1
  have hsorted : v = _ := Option.some_inj.mp
    (hv.symm.trans (read?_text (Response.readable_json hsound)))
  have hfails : v.Fails := by
    rw [hsorted]
    exact Or.inr ⟨_, rfl, rfl⟩
  obtain ⟨d, hd⟩ := htells hfails
  exact ⟨hm, hr, _, v, d, hresponse, hv, hd, hform d hd⟩

end TemplateServer
