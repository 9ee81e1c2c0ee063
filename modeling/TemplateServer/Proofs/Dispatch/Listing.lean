import TemplateServer.Proofs.Dispatch.ToolCall
import TemplateServer.Proofs.Protocol.Failure

namespace TemplateServer

open Json

namespace Json

def entries (v : Json) (key : Text) : List Json :=
  match v.get? key with
  | some (.arr entries) => entries
  | _ => []

def Provided (e : Json) (arguments : List (Text × Text)) : Prop :=
  ∀ a ∈ e.entries "arguments", a.get? "required" = some (.bool true) →
    ∃ name value, a.get? "name" = some (.str name) ∧ (name, value) ∈ arguments

end Json

lemma Prompt.provided_json_iff {p : Prompt} (hp : p ∈ all) {arguments : List (Text × Text)} :
    p.json.Provided arguments ↔ ∃ value, (p.argument.name, value) ∈ arguments := by
  have hentries : p.json.entries "arguments" = [argumentJson p.argument] := rfl
  rw [Json.Provided, hentries]
  constructor
  · intro h
    have htrue : (argumentJson p.argument).get? "required" = some (.bool true) := by
      rw [← required_argument hp]
      rfl
    obtain ⟨name, value, hname, hmem⟩ := h _ (List.mem_singleton_self _) htrue
    cases Json.str.inj (Option.some.inj hname)
    exact ⟨value, hmem⟩
  · rintro ⟨value, hmem⟩ a ha _
    cases List.mem_singleton.mp ha
    exact ⟨_, value, rfl, hmem⟩

lemma Prompt.eq_json_of_listed {p : Prompt} (hp : p ∈ all) {e : Json}
    (he : e ∈ listing.entries "prompts") (hn : e.get? "name" = some (.str p.name)) : e = p.json := by
  obtain ⟨p', hp', rfl⟩ := List.mem_map.mp he
  rw [eq_of_name hp' hp (Json.str.inj (Option.some.inj hn))]

lemma Tool.eq_json_of_listed {t : Tool} {e : Json} (he : e ∈ listing.entries "tools")
    (hn : e.get? "name" = some (.str t.name)) : e = t.json := by
  obtain ⟨t', _, rfl⟩ := List.mem_map.mp he
  rw [name_injective (Json.str.inj (Option.some.inj hn))]

lemma Tool.json_mem_listing (t : Tool) : t.json ∈ listing.entries "tools" := by
  apply List.mem_map_of_mem
  cases t <;> decide

lemma RpcError.ofFailure_injective : Function.Injective ofFailure := by
  intro f f' h
  have hdata : f.json = f'.json := Option.some.inj (congrArg RpcError.data h)
  apply Except.ok.inj (ε := DecodeError)
  rw [← f.decode_json, ← f'.decode_json, hdata]

namespace ToolResult

lemma json_injective : Function.Injective json := by
  rintro ⟨text, _ | _⟩ ⟨text', _ | _⟩ h
  · cases h
    rfl
  · cases h
  · cases h
  · cases h
    rfl

lemma ofFailure_injective : Function.Injective ofFailure := by
  intro f f' h
  have htext : f.json.text ++ ['\n'] = f'.json.text ++ ['\n'] := congrArg ToolResult.text h
  apply Option.some.inj
  rw [← f.decodeText?_line, ← f'.decodeText?_line, htext]

end ToolResult

namespace Request

variable {σ : Type} [WordSource σ]

def Yields (r : Request) (s : σ) (v : Json) : Prop := (r.answer s).response = some (.result r.id v)

def Fails (r : Request) (s : σ) (code : FailureCode) : Prop :=
  ∃ f : Failure, f.code = code ∧ (r.answer s).response = some (.error r.id (.ofFailure f))

def Accepts (r : Request) (s : σ) : Prop :=
  ∃ result : ToolResult, result.isError = false ∧ r.Yields s result.json

def Refuses (r : Request) (s : σ) (code : FailureCode) : Prop :=
  ∃ f : Failure, f.code = code ∧ r.Yields s (ToolResult.ofFailure f).json

variable {r : Request} {s : σ}

lemma fails_iff {f : Failure} (h : (r.answer s).response = some (.error r.id (.ofFailure f)))
    {code : FailureCode} : r.Fails s code ↔ f.code = code := by
  constructor
  · rintro ⟨f', rfl, h'⟩
    have he : Response.error r.id (.ofFailure f) = .error r.id (.ofFailure f') :=
      Option.some.inj (h.symm.trans h')
    rw [RpcError.ofFailure_injective (Outcome.error.inj (congrArg Response.outcome he))]
  · exact fun hc => ⟨f, hc, h⟩

lemma Yields.not_fails {v : Json} (h : r.Yields s v) (code : FailureCode) : ¬ r.Fails s code := by
  rintro ⟨f, _, hf⟩
  cases h.symm.trans hf

lemma Yields.eq {v v' : Json} (h : r.Yields s v) (h' : r.Yields s v') : v = v' := by
  have he : Response.result r.id v = .result r.id v' := Option.some.inj (h.symm.trans h')
  exact Outcome.result.inj (congrArg Response.outcome he)

lemma accepts_iff {result : ToolResult} (h : r.Yields s result.json) :
    r.Accepts s ↔ result.isError = false := by
  constructor
  · rintro ⟨result', hok, h'⟩
    rwa [ToolResult.json_injective (h.eq h')]
  · exact fun hok => ⟨result, hok, h⟩

lemma refuses_iff {f : Failure} (h : r.Yields s (ToolResult.ofFailure f).json)
    {code : FailureCode} : r.Refuses s code ↔ f.code = code := by
  constructor
  · rintro ⟨f', rfl, h'⟩
    rw [ToolResult.ofFailure_injective (ToolResult.json_injective (h.eq h'))]
  · exact fun hc => ⟨f, hc, h⟩

lemma Accepts.not_refuses (h : r.Accepts s) (code : FailureCode) : ¬ r.Refuses s code := by
  rintro ⟨f, _, hf⟩
  cases (accepts_iff hf).mp h

lemma readResource_as_listed {q : ResourceQuery} (hm : r.method = Method.readResource.name)
    (hp : r.paramsAs ResourceQuery = .ok q) :
    let listed := Resource.listing.entries "resources"
    (r.Fails s .resourceNotFound ↔ ∀ e ∈ listed, e.get? "uri" ≠ some (.str q.uri)) ∧
      ∀ e ∈ listed, e.get? "uri" = some (.str q.uri) →
        ∃ v contents mimeType, r.Yields s v ∧ v.entries "contents" = [contents] ∧
          contents.get? "uri" = some (.str q.uri) ∧ e.get? "mimeType" = some mimeType ∧
          contents.get? "mimeType" = some mimeType := by
  intro listed
  have hlisted : ∀ e, e ∈ listed ↔ ∃ x ∈ Resource.all, x.json = e := fun e => List.mem_map
  have hresponse : (r.answer s).response = some (r.reply (q.read.mapError .ofFailure)) := by
    rw [response_answer_of_method hm, ← lookUp_of_ok hp ResourceQuery.read]
    rfl
  have hreads := q.reads
  generalize q.read = outcome at hreads hresponse
  cases hreads with
  | unknown hu =>
    have hnone : ∀ e ∈ listed, e.get? "uri" ≠ some (.str q.uri) := by
      intro e he hq
      obtain ⟨x, hx, rfl⟩ := (hlisted e).mp he
      exact hu x hx (Json.str.inj (Option.some.inj hq))
    exact ⟨iff_of_true ⟨_, rfl, hresponse⟩ hnone, fun e he hq => absurd hq (hnone e he)⟩
  | @found x hx hname =>
    have hyields : r.Yields s x.contents := hresponse
    have huri : x.json.get? "uri" = some (.str q.uri) := by rw [← hname]; rfl
    refine ⟨iff_of_false (hyields.not_fails _) ?_, ?_⟩
    · exact fun hnone => hnone x.json ((hlisted _).mpr ⟨x, hx, rfl⟩) huri
    · intro e he _
      obtain ⟨y, _, rfl⟩ := (hlisted e).mp he
      exact ⟨_, _, _, hyields, rfl, huri, rfl, rfl⟩

lemma getPrompt_as_listed {q : PromptQuery} (hm : r.method = Method.getPrompt.name)
    (hp : r.paramsAs PromptQuery = .ok q) :
    let listed := Prompt.listing.entries "prompts"
    (r.Fails s .promptNotFound ↔ ∀ e ∈ listed, e.get? "name" ≠ some (.str q.name)) ∧
      ∀ e ∈ listed, e.get? "name" = some (.str q.name) →
        ((∃ v, r.Yields s v) ↔ e.Provided q.arguments) ∧
          (r.Fails s .invalidArguments ↔ ¬ e.Provided q.arguments) := by
  intro listed
  have hresponse : (r.answer s).response = some (r.reply (q.expand.mapError .ofFailure)) := by
    rw [response_answer_of_method hm, ← lookUp_of_ok hp PromptQuery.expand]
    rfl
  have hexpands := q.expands
  generalize q.expand = outcome at hexpands hresponse
  cases hexpands with
  | unknown hu =>
    have hnone : ∀ e ∈ listed, e.get? "name" ≠ some (.str q.name) := by
      intro e he hq
      obtain ⟨p, hp, rfl⟩ := List.mem_map.mp he
      exact hu p hp (Json.str.inj (Option.some.inj hq))
    exact ⟨iff_of_true ⟨_, rfl, hresponse⟩ hnone, fun e he hq => absurd hq (hnone e he)⟩
  | @missing p hp hname hmissing =>
    rw [← hname]
    have hfails : ∀ {code}, r.Fails s code ↔ .invalidArguments = code := fails_iff hresponse
    refine ⟨iff_of_false (mt hfails.mp (by decide)) ?_, ?_⟩
    · exact fun hnone => hnone p.json (List.mem_map_of_mem hp) rfl
    · intro e he hn
      obtain rfl := Prompt.eq_json_of_listed hp he hn
      have hnot : ¬ p.json.Provided q.arguments :=
        fun h => (Prompt.provided_json_iff hp).mp h |>.elim hmissing
      refine ⟨iff_of_false ?_ hnot, iff_of_true (hfails.mpr rfl) hnot⟩
      rintro ⟨v, hv⟩
      exact hv.not_fails _ (hfails.mpr rfl)
  | @found p value hp hname hfound =>
    rw [← hname]
    have hyields : r.Yields s (p.expand value) := hresponse
    refine ⟨iff_of_false (hyields.not_fails _) ?_, ?_⟩
    · exact fun hnone => hnone p.json (List.mem_map_of_mem hp) rfl
    · intro e he hn
      obtain rfl := Prompt.eq_json_of_listed hp he hn
      have hprovided : p.json.Provided q.arguments :=
        (Prompt.provided_json_iff hp).mpr ⟨value, hfound⟩
      exact ⟨iff_of_true ⟨_, hyields⟩ hprovided,
        iff_of_false (hyields.not_fails _) (not_not_intro hprovided)⟩

lemma callTool_cases {call : ToolCall} (hm : r.method = Method.callTool.name)
    (hp : r.paramsAs ToolCall = .ok call) :
    (∀ t : Tool, call.name ≠ t.name) ∧ r.Refuses s .unknownTool ∨
      ∃ t : Tool, call.name = t.name ∧ ¬ r.Refuses s .unknownTool ∧
        ∀ a, call.arguments = some a → (r.Accepts s ↔ Satisfies t.inputSchema a) ∧
          (r.Refuses s .invalidArguments ↔ ¬ Satisfies t.inputSchema a) := by
  have hyields : r.Yields s (call.run s).result.json := by rw [Yields, answer_of_paramsAs hm hp]
  have hruns := call.runs s
  generalize call.run s = run at hyields hruns
  cases hruns with
  | unknown hu => exact Or.inl ⟨hu, _, rfl, hyields⟩
  | @missing t hname ha =>
    have hother : ¬ r.Refuses s .unknownTool := by
      rw [refuses_iff hyields]
      rintro ⟨⟩
    refine Or.inr ⟨t, hname, hother, ?_⟩
    intro a ha'
    cases ha.symm.trans ha'
  | @refused t a e hname ha hcode =>
    have hother : ¬ r.Refuses s .unknownTool := by
      rw [refuses_iff hyields]
      rintro ⟨⟩
    refine Or.inr ⟨t, hname, hother, ?_⟩
    intro a' ha'
    cases ha.symm.trans ha'
    have hnot : ¬ Satisfies t.inputSchema a := by
      rw [Tool.satisfies_iff_exists_codeOf, hcode]
      rintro ⟨c, ⟨⟩⟩
    have hrefuses : r.Refuses s .invalidArguments := (refuses_iff hyields).mpr rfl
    exact ⟨iff_of_false (fun h => h.not_refuses _ hrefuses) hnot, iff_of_true hrefuses hnot⟩
  | @done t a c hname ha hcode =>
    obtain ⟨text, htext⟩ := t.result_run c.code s
    have haccepts : r.Accepts s := (accepts_iff hyields).mpr (by rw [htext]; rfl)
    refine Or.inr ⟨t, hname, haccepts.not_refuses _, ?_⟩
    intro a' ha'
    cases ha.symm.trans ha'
    have hsatisfies : Satisfies t.inputSchema a := Tool.satisfies_iff_exists_codeOf.mpr ⟨c, hcode⟩
    exact ⟨iff_of_true haccepts hsatisfies,
      iff_of_false (haccepts.not_refuses _) (not_not_intro hsatisfies)⟩

lemma callTool_as_listed {call : ToolCall} (hm : r.method = Method.callTool.name)
    (hp : r.paramsAs ToolCall = .ok call) :
    let listed := Tool.listing.entries "tools"
    (r.Refuses s .unknownTool ↔ ∀ e ∈ listed, e.get? "name" ≠ some (.str call.name)) ∧
      ∀ e ∈ listed, e.get? "name" = some (.str call.name) →
        ∃ schema, e.get? "inputSchema" = some schema ∧ ∀ a, call.arguments = some a →
          (r.Accepts s ↔ Satisfies schema a) ∧
            (r.Refuses s .invalidArguments ↔ ¬ Satisfies schema a) := by
  intro listed
  rcases callTool_cases (s := s) hm hp with ⟨hu, hrefuses⟩ | ⟨t, hname, hnot, hserved⟩
  · have hnone : ∀ e ∈ listed, e.get? "name" ≠ some (.str call.name) := by
      intro e he hq
      obtain ⟨t, _, rfl⟩ := List.mem_map.mp he
      exact hu t (Json.str.inj (Option.some.inj hq)).symm
    exact ⟨iff_of_true hrefuses hnone, fun e he hq => absurd hq (hnone e he)⟩
  · rw [hname]
    refine ⟨iff_of_false hnot ?_, ?_⟩
    · exact fun hnone => hnone t.json t.json_mem_listing rfl
    · intro e he hn
      obtain rfl := Tool.eq_json_of_listed he hn
      exact ⟨_, rfl, hserved⟩

end Request

variable {σ : Type} [WordSource σ]

/-- Each listing is answered whatever its request holds, and says what is served. A resource is read
just when its address is listed, and comes with that address and the type listed for it. A prompt is
found just when its name is listed, and expanded if the arguments that its entry requires are given.
A tool is known just when its name is listed, and takes what satisfies the schema of its entry. -/
theorem answers_as_listed (s : σ) :
    (∀ r : Request, r.method = Method.listResources.name → r.Yields s Resource.listing) ∧
      (∀ (r : Request) (q : ResourceQuery), r.method = Method.readResource.name →
        r.paramsAs ResourceQuery = .ok q →
        let listed := Resource.listing.entries "resources"
        (r.Fails s .resourceNotFound ↔ ∀ e ∈ listed, e.get? "uri" ≠ some (.str q.uri)) ∧
          ∀ e ∈ listed, e.get? "uri" = some (.str q.uri) →
            ∃ v contents mimeType, r.Yields s v ∧ v.entries "contents" = [contents] ∧
              contents.get? "uri" = some (.str q.uri) ∧ e.get? "mimeType" = some mimeType ∧
              contents.get? "mimeType" = some mimeType) ∧
      (∀ r : Request, r.method = Method.listPrompts.name → r.Yields s Prompt.listing) ∧
      (∀ (r : Request) (q : PromptQuery), r.method = Method.getPrompt.name →
        r.paramsAs PromptQuery = .ok q →
        let listed := Prompt.listing.entries "prompts"
        (r.Fails s .promptNotFound ↔ ∀ e ∈ listed, e.get? "name" ≠ some (.str q.name)) ∧
          ∀ e ∈ listed, e.get? "name" = some (.str q.name) →
            ((∃ v, r.Yields s v) ↔ e.Provided q.arguments) ∧
              (r.Fails s .invalidArguments ↔ ¬ e.Provided q.arguments)) ∧
      (∀ r : Request, r.method = Method.listTools.name → r.Yields s Tool.listing) ∧
      ∀ (r : Request) (call : ToolCall), r.method = Method.callTool.name →
        r.paramsAs ToolCall = .ok call →
        let listed := Tool.listing.entries "tools"
        (r.Refuses s .unknownTool ↔ ∀ e ∈ listed, e.get? "name" ≠ some (.str call.name)) ∧
          ∀ e ∈ listed, e.get? "name" = some (.str call.name) →
            ∃ schema, e.get? "inputSchema" = some schema ∧ ∀ a, call.arguments = some a →
              (r.Accepts s ↔ Satisfies schema a) ∧
                (r.Refuses s .invalidArguments ↔ ¬ Satisfies schema a) := by
  refine ⟨?_, ?_, ?_, ?_, ?_, ?_⟩
  · exact fun r hm => Request.response_answer_of_method hm s
  · exact fun r q hm hp => Request.readResource_as_listed hm hp
  · exact fun r hm => Request.response_answer_of_method hm s
  · exact fun r q hm hp => Request.getPrompt_as_listed hm hp
  · exact fun r hm => Request.response_answer_of_method hm s
  · exact fun r call hm hp => Request.callTool_as_listed hm hp

theorem answers_as_listed_given_more :
    let s := Replay.ofList []
    let ask (method : Text) (items : List Json) : Request :=
      ⟨"2.0", some (.number 1), method, some (.arr items)⟩
    let read := ask "resources/read" [.str "perchance://examples/basic"]
    let expand := ask "prompts/get" [.str "create_perchance_list", .obj [("style", .str "short")]]
    let run := ask "tools/call" [.str "validate_perchance_code",
      .obj [("code", .str "[a]"), ("style", .arr [])]]
    (∃ v contents, read.Yields s v ∧ v.entries "contents" = [contents] ∧
        contents.get? "mimeType" = some (.str "text/plain")) ∧
      expand.Fails s .invalidArguments ∧ run.Accepts s := by
  intro s ask read expand run
  obtain ⟨_, hread, _, hexpand, _, hrun⟩ := answers_as_listed s
  have hasked : read.paramsAs ResourceQuery = .ok ⟨"perchance://examples/basic"⟩ := by rfl
  have hwanted : expand.paramsAs PromptQuery =
      .ok ⟨"create_perchance_list", [("style", "short")]⟩ := by rfl
  have hcalled : run.paramsAs ToolCall =
      .ok ⟨Tool.check.name, some (.obj [("code", .str "[a]"), ("style", .arr [])])⟩ := by rfl
  refine ⟨?_, ?_, ?_⟩
  · obtain ⟨v, contents, mimeType, hv, hcontents, _, hlisted, htype⟩ :=
      (hread read _ rfl hasked).2 Resource.basicExample.json (List.mem_singleton_self _) rfl
    refine ⟨v, contents, hv, hcontents, ?_⟩
    rw [htype, ← hlisted]
    rfl
  · have hserved :=
      (hexpand expand _ rfl hwanted).2 Prompt.createList.json (List.mem_singleton_self _) rfl
    apply hserved.2.mpr
    rw [Prompt.provided_json_iff List.mem_cons_self]
    rintro ⟨value, hvalue⟩
    cases List.mem_singleton.mp hvalue
  · obtain ⟨schema, hschema, htakes⟩ :=
      (hrun run _ rfl hcalled).2 Tool.check.json Tool.check.json_mem_listing rfl
    cases hschema
    exact (htakes _ rfl).1.mpr (Tool.satisfies_inputSchema_iff.mpr rfl)

end TemplateServer
