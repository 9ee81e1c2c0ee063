import Mathlib
import TemplateServer.Proofs.Dispatch.Answer
import TemplateServer.Proofs.Protocol.Request

namespace TemplateServer

open Json

namespace ToolCall

def Sends (call : ToolCall) (code : Text) : Prop :=
  ∃ members : Members, call.arguments = some (.obj members) ∧
    members.get? "code" = some (.str code)

lemma sends_iff {call : ToolCall} (ho : ∀ a ∈ call.arguments, a.Ordered) (tool : Tool) {code : Text} :
    call.Sends code ↔ ∃ a, call.arguments = some a ∧ tool.codeOf a = .ok ⟨code⟩ := by
  constructor
  · rintro ⟨members, ha, hcode⟩
    exact ⟨_, ha, (Tool.codeOf_eq_ok_iff (ho _ ha)).mpr ⟨members, rfl, hcode⟩⟩
  · rintro ⟨a, ha, hc⟩
    obtain ⟨members, rfl, hcode⟩ := (Tool.codeOf_eq_ok_iff (ho a ha)).mp hc
    exact ⟨members, ha, hcode⟩

variable {σ : Type} [WordSource σ] {call : ToolCall} {s : σ} {run : Tool.Run σ}

lemma Runs.eq_run (h : Runs call s run) (ho : ∀ a ∈ call.arguments, a.Ordered) {tool : Tool}
    {code : Text} (hn : call.name = tool.name) (hs : call.Sends code) : run = tool.run code s := by
  obtain ⟨a, ha, hc⟩ := (sends_iff ho tool).mp hs
  cases h with
  | unknown hu => exact absurd hn (hu tool)
  | missing _ hm => cases hm.symm.trans ha
  | refused hn' ha' he =>
    cases ha'.symm.trans ha
    cases Tool.name_injective (hn'.symm.trans hn)
    cases he.symm.trans hc
  | done hn' ha' hc' =>
    cases ha'.symm.trans ha
    cases Tool.name_injective (hn'.symm.trans hn)
    cases hc'.symm.trans hc
    rfl

lemma Runs.fails_or_sends (h : Runs call s run) (ho : ∀ a ∈ call.arguments, a.Ordered) :
    (run.source = s ∧ ∃ f : Failure, run.result = .ofFailure f ∧
        (f.code = .unknownTool ∧ (∀ tool : Tool, call.name ≠ tool.name) ∨
          f.code = .invalidArguments ∧ ∃ tool : Tool, call.name = tool.name)) ∨
      ∃ (tool : Tool) (code : Text), call.name = tool.name ∧ call.Sends code := by
  cases h with
  | unknown hu => exact Or.inl ⟨rfl, _, rfl, Or.inl ⟨rfl, hu⟩⟩
  | missing hn _ | refused hn _ _ => exact Or.inl ⟨rfl, _, rfl, Or.inr ⟨rfl, _, hn⟩⟩
  | @done tool a c hn ha hc => exact Or.inr ⟨tool, c.code, hn, (sends_iff ho tool).mpr ⟨a, ha, hc⟩⟩

end ToolCall

namespace Request

variable {σ : Type} [WordSource σ]

lemma answer_of_paramsAs {r : Request} {call : ToolCall} (hm : r.method = Method.callTool.name)
    (hp : r.paramsAs ToolCall = .ok call) (s : σ) :
    r.answer s = ⟨some (.result r.id (call.run s).result.json), (call.run s).source,
      .dispatching r.method :: (call.run s).events⟩ := by
  simp only [answer, Method.ofName?_eq_some_iff.mpr hm, answerMethod, hp]
  rfl

end Request

variable {σ : Type} [WordSource σ]

/-- A call is answered with a result, and runs a tool just when it names the tool and sends an object
with a string as the code. Any other call has a failed result and leaves the source alone. What the
schema of a tool lets pass holds a code, and no array passes, although one with a string can be
decoded. The parameters are of the kind that texts are read as: `Request.ordered_of_decodeText?`. -/
theorem answer_callTool :
    (∀ (tool : Tool) (v : Json), Schema.check tool.inputSchema v = .ok () →
      ∃ code, (Decodable.decode v : Decoded CodeArgument) = .ok ⟨code⟩) ∧
    (∀ code, (Decodable.decode (.arr [.str code]) : Decoded CodeArgument) = .ok ⟨code⟩) ∧
    (∀ (tool : Tool) (items : List Json), ∃ e, tool.codeOf (.arr items) = .error (.schema e)) ∧
    ∀ {r : Request} {call : ToolCall}, (∀ p ∈ r.params, p.Ordered) →
      r.method = Method.callTool.name → r.paramsAs ToolCall = .ok call → ∀ s : σ,
      ∃ run : Tool.Run σ,
        r.answer s = ⟨some (.result r.id run.result.json), run.source,
          .dispatching r.method :: run.events⟩ ∧
        (run.result.isError = false ↔
          ∃ (tool : Tool) (code : Text), call.name = tool.name ∧ call.Sends code) ∧
        (∀ (tool : Tool) (code : Text), call.name = tool.name → call.Sends code →
          run = tool.run code s) ∧
        (run.result.isError = true → run.source = s ∧ ∃ f : Failure, run.result = .ofFailure f ∧
          (f.code = .unknownTool ∧ (∀ tool : Tool, call.name ≠ tool.name) ∨
            f.code = .invalidArguments ∧ ∃ tool : Tool, call.name = tool.name)) := by
  refine ⟨?_, fun code => rfl, Tool.codeOf_arr, ?_⟩
  · intro tool v h
    obtain ⟨members, code, rfl, hcode⟩ := Tool.get?_code_of_check h
    exact ⟨code, Tool.decode_of_get?_code hcode⟩
  · intro r call hr hm hp s
    have ho : ∀ a ∈ call.arguments, a.Ordered := by
      intro a ha
      obtain ⟨p, hparams, hd⟩ := Request.decode_of_paramsAs hp
      exact (hr p hparams).part (ToolCall.part_of_decode hd a ha)
    have hruns := call.runs s
    have hdone : ∀ (tool : Tool) (code : Text), call.name = tool.name → call.Sends code →
        call.run s = tool.run code s := fun _ _ => hruns.eq_run ho
    refine ⟨call.run s, Request.answer_of_paramsAs hm hp s, ?_, hdone, ?_⟩
    · constructor
      · intro hok
        rcases hruns.fails_or_sends ho with ⟨_, f, hf, _⟩ | hsends
        · rw [hf] at hok
          cases hok
        · exact hsends
      · rintro ⟨tool, code, hn, hs⟩
        obtain ⟨text, htext⟩ := tool.result_run code s
        rw [hdone tool code hn hs, htext]
        rfl
    · intro herror
      rcases hruns.fails_or_sends ho with hfails | ⟨tool, code, hn, hs⟩
      · exact hfails
      · obtain ⟨text, htext⟩ := tool.result_run code s
        rw [hdone tool code hn hs, htext] at herror
        cases herror

theorem answer_callTool_check :
    let members : Members := [("code", .str "a"), ("more", .arr [.int 0])]
    let call : ToolCall := ⟨Tool.check.name, some (.obj members)⟩
    let r : Request := ⟨"2.0", some (.number 1), "tools/call",
      some (.arr [.str Tool.check.name, .obj members])⟩
    (∀ p ∈ r.params, p.Ordered) ∧ r.method = Method.callTool.name ∧ r.paramsAs ToolCall = .ok call ∧
      call.Sends "a" ∧ ∃ run : Tool.Run Replay, run = Tool.check.run "a" (.ofList []) ∧
        run.result.isError = false ∧
        (r.answer (Replay.ofList [])).response = some (.result r.id run.result.json) := by
  intro members call r
  have hr : decodeText?
      ("[\"2.0\",1,\"tools/call\",[\"validate_perchance_code\",\x7b\"more\":[0],\"code\":\"a\"\x7d]]" : Text) =
      some (Request.mk "2.0" (some (.number 1)) "tools/call"
        (some (.arr [.str "validate_perchance_code",
          .obj [("code", .str "a"), ("more", .arr [.int 0])]]))) := by cbv
  have ho : ∀ p ∈ r.params, p.Ordered := fun p hp => Request.ordered_of_decodeText? hr hp
  have hs : call.Sends "a" := ⟨members, rfl, rfl⟩
  obtain ⟨_, _, _, hcalls⟩ := @answer_callTool Replay _
  obtain ⟨run, hanswer, hok, hdone, _⟩ := hcalls ho rfl rfl (.ofList [])
  exact ⟨ho, rfl, rfl, hs, run, hdone .check "a" rfl hs, hok.mpr ⟨.check, "a", rfl, hs⟩,
    by rw [hanswer]⟩

end TemplateServer
