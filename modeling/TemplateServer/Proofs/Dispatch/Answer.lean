import TemplateServer.Dispatch
import TemplateServer.Proofs.Catalog.Lookup
import TemplateServer.Proofs.Catalog.Tools
import TemplateServer.Proofs.Json.Rereading

namespace TemplateServer

open Json

lemma Method.ofName?_eq_some_iff {name : Text} {m : Method} :
    Method.ofName? name = some m ↔ name = m.name :=
  find?_name_eq_some_iff Method.ofName?_name

lemma Method.ofName?_eq_none_iff {name : Text} :
    Method.ofName? name = none ↔ ∀ m : Method, name ≠ m.name := by
  simp only [Option.eq_none_iff_forall_ne_some, Ne, Method.ofName?_eq_some_iff]

lemma ResourceQuery.blames_of_read {q : ResourceQuery} {f : Failure} (h : q.read = .error f) :
    f.Blames := by
  have hreads := q.reads
  rw [h] at hreads
  cases hreads
  exact ⟨rfl, by decide⟩

lemma PromptQuery.blames_of_expand {q : PromptQuery} {f : Failure} (h : q.expand = .error f) :
    f.Blames := by
  have hexpands := q.expands
  rw [h] at hexpands
  cases hexpands with
  | unknown _ => exact ⟨rfl, by decide⟩
  | missing _ _ _ => exact ⟨rfl, by simp⟩

/-- A value that a client can read, and does not take for the report of a failure. -/
structure Json.Plain (v : Json) : Prop where
  readable : Readable 126 v
  isError : v.sorted.get? "isError" = none

lemma ResourceQuery.plain_of_read {q : ResourceQuery} {v : Json} (h : q.read = .ok v) : v.Plain := by
  have hreads := q.reads
  rw [h] at hreads
  cases hreads
  exact ⟨readable_of_isReadable rfl, rfl⟩

lemma PromptQuery.plain_of_expand {q : PromptQuery} {v : Json} (h : q.expand = .ok v) : v.Plain := by
  have hexpands := q.expands
  rw [h] at hexpands
  cases hexpands
  exact ⟨readable_of_isReadable rfl, rfl⟩

lemma ToolResult.plain_ofText (text : Text) : (ToolResult.ofText text).json.Plain :=
  ⟨readable_of_isReadable rfl, rfl⟩

namespace Request

def Draws (r : Request) : Prop :=
  ∃ call arguments code, r.method = Method.callTool.name ∧ r.paramsAs ToolCall = .ok call ∧
    call.name = Tool.fill.name ∧ call.arguments = some arguments ∧
    Tool.fill.codeOf arguments = .ok code

inductive Answered (r : Request) : Response → Prop
  | unknown : Answered r (.error r.id (.methodNotFound r.method))
  | params (detail : Text) : Answered r (.error r.id (.invalidParams detail))
  | failure {f : Failure} : f.Blames → Answered r (.error r.id (.ofFailure f))
  | refusal {f : Failure} : f.Blames → Answered r (.result r.id (ToolResult.ofFailure f).json)
  | result {v : Json} : v.Plain → Answered r (.result r.id v)

lemma error_of_paramsAs {α : Type} [Decodable α] {r : Request} {e : RpcError}
    (h : r.paramsAs α = .error e) : ∃ detail, e = .invalidParams detail := by
  rw [paramsAs] at h
  split at h
  · cases h
    exact ⟨_, rfl⟩
  · split at h
    · cases h
      exact ⟨_, rfl⟩
    · cases h

lemma decode_of_paramsAs {α : Type} [Decodable α] {r : Request} {x : α} (h : r.paramsAs α = .ok x) :
    ∃ p, r.params = some p ∧ (Decodable.decode p : Decoded α) = .ok x := by
  rw [paramsAs] at h
  split at h
  · cases h
  · rename_i p hp
    split at h
    · cases h
    · rename_i y hy
      cases h
      exact ⟨p, hp, hy⟩

lemma lookUp_of_error {α : Type} [Decodable α] {r : Request} {e : RpcError}
    (h : r.paramsAs α = .error e) (find : α → Except Failure Json) :
    r.lookUp α find = .error r.id e := by
  rw [lookUp, h]
  rfl

lemma lookUp_of_ok {α : Type} [Decodable α] {r : Request} {query : α}
    (h : r.paramsAs α = .ok query) (find : α → Except Failure Json) :
    r.lookUp α find = r.reply ((find query).mapError .ofFailure) := by
  rw [lookUp, h]
  rfl

lemma answered_lookUp {α : Type} [Decodable α] (r : Request) {find : α → Except Failure Json}
    (herror : ∀ q f, find q = .error f → f.Blames) (hok : ∀ q v, find q = .ok v → v.Plain) :
    r.Answered (r.lookUp α find) := by
  cases hp : r.paramsAs α with
  | error e =>
    rw [lookUp_of_error hp]
    obtain ⟨detail, rfl⟩ := error_of_paramsAs hp
    exact .params detail
  | ok query =>
    rw [lookUp_of_ok hp]
    cases hf : find query with
    | error f => exact .failure (herror query f hf)
    | ok v => exact .result (hok query v hf)

variable {σ : Type} [WordSource σ]

lemma response_answer_of_method {r : Request} {m : Method} (h : r.method = m.name) (s : σ) :
    (r.answer s).response = (r.answerMethod s m).response := by
  simp only [answer, Method.ofName?_eq_some_iff.mpr h]

lemma response_answer_of_unknown {r : Request} (h : ∀ m : Method, r.method ≠ m.name) (s : σ) :
    (r.answer s).response = r.unknownMethod := by
  simp only [answer, Method.ofName?_eq_none_iff.mpr h]

lemma answered_answerMethod {r : Request} {s : σ} {m : Method} {response : Response}
    (h : (r.answerMethod s m).response = some response) : r.Answered response := by
  cases m with
  | handshake | ping | listTools | listResources | listPrompts =>
    cases h
    exact .result ⟨readable_of_isReadable rfl, rfl⟩
  | handshakeDone => cases h
  | callTool =>
    rw [answerMethod] at h
    split at h
    · rename_i e hp
      cases h
      obtain ⟨detail, rfl⟩ := error_of_paramsAs hp
      exact .params detail
    · rename_i call _
      cases h
      rcases (call.runs s).result with ⟨f, hf, hr⟩ | ⟨text, hr⟩
      · rw [hr]
        exact .refusal hf
      · rw [hr]
        exact .result (ToolResult.plain_ofText text)
  | readResource =>
    cases h
    exact answered_lookUp r (fun _ _ => ResourceQuery.blames_of_read)
      (fun _ _ => ResourceQuery.plain_of_read)
  | getPrompt =>
    cases h
    exact answered_lookUp r (fun _ _ => PromptQuery.blames_of_expand)
      (fun _ _ => PromptQuery.plain_of_expand)

lemma answered_answer {r : Request} {s : σ} {response : Response}
    (h : (r.answer s).response = some response) : r.Answered response := by
  cases hm : Method.ofName? r.method with
  | none =>
    simp only [answer, hm, unknownMethod] at h
    cases hid : r.id with
    | none =>
      rw [hid] at h
      cases h
    | some id =>
      rw [hid] at h
      cases h
      rw [← hid]
      exact .unknown
  | some m =>
    simp only [answer, hm] at h
    exact answered_answerMethod h

lemma Answered.code {r : Request} {response : Response} (h : r.Answered response) {e : RpcError}
    (he : response.outcome = .error e) : e.code = -32601 ∨ e.code = -32602 := by
  cases h with
  | unknown =>
    cases he
    exact Or.inl rfl
  | params detail =>
    cases he
    exact Or.inr rfl
  | failure hf =>
    cases he
    exact Or.inr hf.code
  | refusal _ | result _ => cases he

lemma Answered.id {r : Request} {response : Response} (h : r.Answered response) :
    response.id = r.id := by
  cases h <;> rfl

lemma response_answerMethod_eq_none_iff {r : Request} {s : σ} {m : Method} :
    (r.answerMethod s m).response = none ↔ m = .handshakeDone := by
  cases m with
  | handshakeDone => exact iff_of_true rfl rfl
  | callTool =>
    refine iff_of_false ?_ (by decide)
    rw [answerMethod]
    split <;> exact Option.some_ne_none _
  | _ => exact iff_of_false (Option.some_ne_none _) (by decide)

lemma answer_isSome {r : Request} (hid : r.id.isSome) (hm : r.method ≠ Method.handshakeDone.name)
    (s : σ) : (r.answer s).response.isSome := by
  obtain ⟨id, hid⟩ := Option.isSome_iff_exists.mp hid
  cases h : Method.ofName? r.method with
  | none =>
    simp only [answer, h, unknownMethod, hid]
    rfl
  | some m =>
    simp only [answer, h, Option.isSome_iff_ne_none, Ne, response_answerMethod_eq_none_iff]
    rintro rfl
    exact hm (Method.ofName?_eq_some_iff.mp h)

lemma response_answer_eq_none_iff {r : Request} (hid : r.id = none) {s : σ} :
    (r.answer s).response = none ↔ ∀ m : Method, r.method = m.name → m = .handshakeDone := by
  cases h : Method.ofName? r.method with
  | none =>
    simp only [answer, h, unknownMethod, hid]
    refine iff_of_true rfl ?_
    intro m hm
    rw [Method.ofName?_eq_some_iff.mpr hm] at h
    cases h
  | some m =>
    have hname := Method.ofName?_eq_some_iff.mp h
    simp only [answer, h, response_answerMethod_eq_none_iff]
    constructor
    · rintro rfl m' hm'
      rw [Method.ofName?_eq_some_iff.mpr hm'] at h
      exact Option.some_inj.mp h
    · exact fun hall => hall m hname

lemma source_answer {r : Request} (h : ¬ r.Draws) (s : σ) : (r.answer s).source = s := by
  cases hm : Method.ofName? r.method with
  | none => simp only [answer, hm]
  | some m =>
    simp only [answer, hm]
    cases m with
    | callTool =>
      simp only [answerMethod]
      split
      · rfl
      · rename_i call hp
        apply (call.runs s).source
        intro arguments code hn ha hc
        exact h ⟨call, arguments, code, Method.ofName?_eq_some_iff.mp hm, hp, hn, ha, hc⟩
    | _ => rfl

end Request

end TemplateServer
