import TemplateServer.Proofs.Dispatch.Answer
import TemplateServer.Proofs.Protocol.Failure

namespace TemplateServer

open Json

inductive Reaction where
  | silence
  | unknownMethod
  | badParams
  | failure
  | result
  deriving DecidableEq, Repr

namespace Reaction

def ofError? (e : RpcError) : Option Reaction :=
  if e.code = -32601 then some unknownMethod
  else if e.code = -32602 then some (if e.data.isSome then failure else badParams)
  else none

def of? : Option Response → Option Reaction
  | none => some silence
  | some response =>
    match response.outcome with
    | .result _ => some result
    | .error e => ofError? e

lemma ofError?_ofFailure {f : Failure} (h : f.Blames) :
    ofError? (.ofFailure f) = some failure := by
  have hcode : (RpcError.ofFailure f).code = -32602 := h.code
  rw [ofError?, hcode]
  rfl

end Reaction

def ResourceQuery.Misses (q : ResourceQuery) : Prop := ∀ x ∈ Resource.all, x.uri ≠ q.uri

def PromptQuery.Misses (q : PromptQuery) : Prop :=
  (∀ p ∈ Prompt.all, p.name ≠ q.name) ∨
    ∃ p ∈ Prompt.all, p.name = q.name ∧ p.argument.required = true ∧
      ∀ value, (p.argument.name, value) ∉ q.arguments

lemma ResourceQuery.exists_read_eq_error_iff {q : ResourceQuery} :
    (∃ f, q.read = .error f) ↔ q.Misses := by
  have hreads := q.reads
  generalize q.read = outcome at hreads
  cases hreads with
  | unknown hu => exact iff_of_true ⟨_, rfl⟩ hu
  | found hx hname =>
    refine iff_of_false ?_ (fun hmisses => hmisses _ hx hname)
    rintro ⟨f, ⟨⟩⟩

lemma PromptQuery.exists_expand_eq_error_iff {q : PromptQuery} :
    (∃ f, q.expand = .error f) ↔ q.Misses := by
  have hexpands := q.expands
  generalize q.expand = outcome at hexpands
  cases hexpands with
  | unknown hu => exact iff_of_true ⟨_, rfl⟩ (Or.inl hu)
  | missing hp hname hmissing =>
    exact iff_of_true ⟨_, rfl⟩ (Or.inr ⟨_, hp, hname, Prompt.required_argument hp, hmissing⟩)
  | found hp hname hfound =>
    refine iff_of_false ?_ ?_
    · rintro ⟨f, ⟨⟩⟩
    · rintro (hu | ⟨p', hp', hname', _, hmissing⟩)
      · exact hu _ hp hname
      · cases Prompt.eq_of_name hp' hp (hname'.trans hname.symm)
        exact hmissing _ hfound

namespace Request

def Holds {α : Type} [Decodable α] (r : Request) (q : α) : Prop :=
  ∃ p, r.params = some p ∧ (Decodable.decode p : Decoded α) = .ok q

def Lacks (α : Type) [Decodable α] (r : Request) : Prop :=
  r.params = none ∨ ∃ p e, r.params = some p ∧ (Decodable.decode p : Decoded α) = .error e

inductive CallsFor (r : Request) : Reaction → Prop
  | done : r.method = Method.handshakeDone.name → CallsFor r .silence
  | unheard : (∀ m : Method, r.method ≠ m.name) → r.id = none → CallsFor r .silence
  | unknown : (∀ m : Method, r.method ≠ m.name) → r.id ≠ none → CallsFor r .unknownMethod
  | noCall : r.method = Method.callTool.name → r.Lacks ToolCall → CallsFor r .badParams
  | noResource : r.method = Method.readResource.name → r.Lacks ResourceQuery →
      CallsFor r .badParams
  | noPrompt : r.method = Method.getPrompt.name → r.Lacks PromptQuery → CallsFor r .badParams
  | unread {q : ResourceQuery} : r.method = Method.readResource.name → r.Holds q → q.Misses →
      CallsFor r .failure
  | unexpanded {q : PromptQuery} : r.method = Method.getPrompt.name → r.Holds q → q.Misses →
      CallsFor r .failure
  | told {m : Method} : m ∈ [.handshake, .ping, .listTools, .listResources, .listPrompts] →
      r.method = m.name → CallsFor r .result
  | called {call : ToolCall} : r.method = Method.callTool.name → r.Holds call → CallsFor r .result
  | read {q : ResourceQuery} : r.method = Method.readResource.name → r.Holds q → ¬ q.Misses →
      CallsFor r .result
  | expanded {q : PromptQuery} : r.method = Method.getPrompt.name → r.Holds q → ¬ q.Misses →
      CallsFor r .result

variable {r : Request}

lemma lacks_or_holds (α : Type) [Decodable α] (r : Request) : r.Lacks α ∨ ∃ q : α, r.Holds q := by
  cases hp : r.params with
  | none => exact Or.inl (Or.inl hp)
  | some p =>
    cases hd : (Decodable.decode p : Decoded α) with
    | error e => exact Or.inl (Or.inr ⟨p, e, hp, hd⟩)
    | ok q => exact Or.inr ⟨q, p, hp, hd⟩

lemma exists_callsFor (r : Request) : ∃ reaction, r.CallsFor reaction := by
  -- by the method, then by the parameters where it has some to decode
  cases hm : Method.ofName? r.method with
  | none =>
    have hu := Method.ofName?_eq_none_iff.mp hm
    by_cases hid : r.id = none
    · exact ⟨_, .unheard hu hid⟩
    · exact ⟨_, .unknown hu hid⟩
  | some m =>
    have hname := Method.ofName?_eq_some_iff.mp hm
    cases m with
    | handshake | ping | listTools | listResources | listPrompts =>
      exact ⟨_, .told (by decide) hname⟩
    | handshakeDone => exact ⟨_, .done hname⟩
    | callTool =>
      rcases r.lacks_or_holds ToolCall with hl | ⟨call, hcall⟩
      · exact ⟨_, .noCall hname hl⟩
      · exact ⟨_, .called hname hcall⟩
    | readResource =>
      rcases r.lacks_or_holds ResourceQuery with hl | ⟨q, hq⟩
      · exact ⟨_, .noResource hname hl⟩
      · by_cases hmisses : q.Misses
        · exact ⟨_, .unread hname hq hmisses⟩
        · exact ⟨_, .read hname hq hmisses⟩
    | getPrompt =>
      rcases r.lacks_or_holds PromptQuery with hl | ⟨q, hq⟩
      · exact ⟨_, .noPrompt hname hl⟩
      · by_cases hmisses : q.Misses
        · exact ⟨_, .unexpanded hname hq hmisses⟩
        · exact ⟨_, .expanded hname hq hmisses⟩

section

variable {α : Type} [Decodable α]

lemma paramsAs_of_holds {q : α} (h : r.Holds q) : r.paramsAs α = .ok q := by
  obtain ⟨p, hp, hd⟩ := h
  simp only [paramsAs, hp, hd]

lemma paramsAs_of_lacks (h : r.Lacks α) : ∃ detail, r.paramsAs α = .error (.invalidParams detail) := by
  rcases h with hp | ⟨p, e, hp, hd⟩
  · simp only [paramsAs, hp]
    exact ⟨_, rfl⟩
  · simp only [paramsAs, hp, hd]
    exact ⟨_, rfl⟩

variable {find : α → Except Failure Json}

lemma of?_lookUp_of_lacks (h : r.Lacks α) : Reaction.of? (r.lookUp α find) = some .badParams := by
  obtain ⟨detail, hp⟩ := paramsAs_of_lacks h
  rw [lookUp_of_error hp]
  rfl

lemma of?_lookUp_of_error {q : α} (h : r.Holds q) (hf : ∃ f, find q = .error f)
    (hb : ∀ f, find q = .error f → f.Blames) :
    Reaction.of? (r.lookUp α find) = some .failure := by
  obtain ⟨f, hf⟩ := hf
  rw [lookUp_of_ok (paramsAs_of_holds h), hf]
  exact Reaction.ofError?_ofFailure (hb f hf)

lemma of?_lookUp_of_ok {q : α} (h : r.Holds q) (hf : ¬ ∃ f, find q = .error f) :
    Reaction.of? (r.lookUp α find) = some .result := by
  rw [lookUp_of_ok (paramsAs_of_holds h)]
  cases hq : find q with
  | error f => exact absurd ⟨f, hq⟩ hf
  | ok v => rfl

end

variable {σ : Type} [WordSource σ]

lemma of?_response_of_callsFor {reaction : Reaction} (h : r.CallsFor reaction) (s : σ) :
    Reaction.of? (r.answer s).response = some reaction := by
  cases h with
  | done hm =>
    rw [response_answer_of_method hm]
    rfl
  | unheard hu hid =>
    rw [response_answer_of_unknown hu, unknownMethod, hid]
    rfl
  | unknown hu hid =>
    obtain ⟨id, hid⟩ := Option.ne_none_iff_exists'.mp hid
    rw [response_answer_of_unknown hu, unknownMethod, hid]
    rfl
  | noCall hm hl =>
    obtain ⟨detail, hp⟩ := paramsAs_of_lacks hl
    rw [response_answer_of_method hm, answerMethod, hp]
    rfl
  | noResource hm hl | noPrompt hm hl =>
    rw [response_answer_of_method hm]
    exact of?_lookUp_of_lacks hl
  | unread hm hq hmisses =>
    rw [response_answer_of_method hm]
    exact of?_lookUp_of_error hq (ResourceQuery.exists_read_eq_error_iff.mpr hmisses)
      fun _ => ResourceQuery.blames_of_read
  | unexpanded hm hq hmisses =>
    rw [response_answer_of_method hm]
    exact of?_lookUp_of_error hq (PromptQuery.exists_expand_eq_error_iff.mpr hmisses)
      fun _ => PromptQuery.blames_of_expand
  | @told m hmem hm =>
    rw [response_answer_of_method hm]
    cases m with
    | handshake | ping | listTools | listResources | listPrompts => rfl
    | handshakeDone | callTool | readResource | getPrompt => exact absurd hmem (by decide)
  | called hm hcall =>
    rw [response_answer_of_method hm, answerMethod, paramsAs_of_holds hcall]
    rfl
  | read hm hq hmisses =>
    rw [response_answer_of_method hm]
    exact of?_lookUp_of_ok hq (mt ResourceQuery.exists_read_eq_error_iff.mp hmisses)
  | expanded hm hq hmisses =>
    rw [response_answer_of_method hm]
    exact of?_lookUp_of_ok hq (mt PromptQuery.exists_expand_eq_error_iff.mp hmisses)

lemma of?_response_eq_some_iff {reaction : Reaction} (s : σ) :
    Reaction.of? (r.answer s).response = some reaction ↔ r.CallsFor reaction := by
  constructor
  · intro h
    obtain ⟨called, hcalled⟩ := r.exists_callsFor
    have he : some called = some reaction := (of?_response_of_callsFor hcalled s).symm.trans h
    cases he
    exact hcalled
  · exact fun h => of?_response_of_callsFor h s

lemma CallsFor.unique {reaction reaction' : Reaction} (h : r.CallsFor reaction)
    (h' : r.CallsFor reaction') : reaction = reaction' := by
  -- any source will do, the reaction is the same
  apply Option.some_inj.mp
  rw [← of?_response_of_callsFor h (Replay.ofList []), of?_response_of_callsFor h']

lemma data_of_answered {response : Response} (h : r.Answered response) {e : RpcError} {d : Json}
    (he : response.outcome = .error e) (hd : e.data = some d) :
    ∃ f : Failure, (Decodable.decode d : Decoded Failure) = .ok f ∧ e.code = f.code.rpcCode ∧
      e.message = f.message := by
  cases h with
  | unknown | params =>
    cases he
    cases hd
  | @failure f hf =>
    cases he
    cases hd
    exact ⟨f, f.decode_json, rfl, rfl⟩
  | refusal | result => cases he

end Request

variable {σ : Type} [WordSource σ]

/-- A request calls for one reaction, and gets it. The data of an error is the failure that gives it
its code and its message, and no error is internal, of an invalid request or of a parse. The
handshake, the ping and the listings give a result whatever their parameters are. -/
theorem answer_reaction (r : Request) (s : σ) :
    (∃! reaction, r.CallsFor reaction) ∧
      (∀ reaction, Reaction.of? (r.answer s).response = some reaction ↔ r.CallsFor reaction) ∧
      (∀ response e, (r.answer s).response = some response → response.outcome = .error e →
        e.code ∉ [-32603, -32600, -32700] ∧
          ∀ d, e.data = some d →
            ∃ f : Failure, (Decodable.decode d : Decoded Failure) = .ok f ∧
              e.code = f.code.rpcCode ∧ e.message = f.message) ∧
      ∀ m ∈ [Method.handshake, .ping, .listTools, .listResources, .listPrompts],
        r.method = m.name → ∀ params,
          Reaction.of? (({ r with params } : Request).answer s).response = some .result := by
  refine ⟨?_, ?_, ?_, ?_⟩
  · obtain ⟨reaction, h⟩ := r.exists_callsFor
    exact ⟨reaction, h, fun _ h' => h'.unique h⟩
  · exact fun reaction => Request.of?_response_eq_some_iff s
  · intro response e hresponse he
    have hanswered := Request.answered_answer hresponse
    refine ⟨?_, fun d hd => Request.data_of_answered hanswered he hd⟩
    rcases hanswered.code he with hcode | hcode <;> rw [hcode] <;> decide
  · intro m hmem hm params
    exact Request.of?_response_of_callsFor (r := { r with params }) (.told hmem hm) s

theorem answer_reaction_of_missing_argument :
    let s := Replay.ofList []
    let r : Request := ⟨"2.0", none, "prompts/get", some (.arr [.str "create_perchance_list"])⟩
    Reaction.of? (r.answer s).response = some .failure ∧
      (∃ response e d f, (r.answer s).response = some response ∧ response.outcome = .error e ∧
        e.data = some d ∧ (Decodable.decode d : Decoded Failure) = .ok f ∧
        e.code = f.code.rpcCode) ∧
      Reaction.of? (({ r with method := "ping" } : Request).answer s).response = some .result := by
  intro s r
  have hq : r.Holds (⟨"create_perchance_list", []⟩ : PromptQuery) := ⟨_, rfl, rfl⟩
  have hmisses : PromptQuery.Misses ⟨"create_perchance_list", []⟩ :=
    Or.inr ⟨Prompt.createList, List.mem_cons_self, rfl, rfl, fun _ => List.not_mem_nil⟩
  obtain ⟨_, hcalls, herrors, _⟩ := answer_reaction r s
  obtain ⟨_, _, _, htold⟩ := answer_reaction { r with method := "ping" } s
  obtain ⟨_, hdata⟩ := herrors _ _ rfl rfl
  obtain ⟨f, hf, hcode, _⟩ := hdata _ rfl
  exact ⟨(hcalls _).mpr (.unexpanded rfl hq hmisses), ⟨_, _, _, f, rfl, rfl, rfl, hf, hcode⟩,
    htold .ping (by decide) rfl _⟩

end TemplateServer
