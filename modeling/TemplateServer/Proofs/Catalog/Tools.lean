import TemplateServer.Catalog.Tools
import TemplateServer.Proofs.Json.Ordered
import TemplateServer.Proofs.Json.Schema

namespace TemplateServer

open Json

structure Failure.Blames (f : Failure) : Prop where
  code : f.code.rpcCode = -32602
  message : f.message ≠ []

lemma find?_name_eq_some_iff {α : Type} {all : List α} {name : α → Text}
    (hself : ∀ a, all.find? (name · = name a) = some a) {n : Text} {a : α} :
    all.find? (name · = n) = some a ↔ n = name a := by
  constructor
  · intro h
    have hn := List.find?_some h
    exact (of_decide_eq_true hn).symm
  · rintro rfl
    exact hself a

namespace Tool

lemma ofName?_eq_some_iff {name : Text} {t : Tool} : ofName? name = some t ↔ name = t.name :=
  find?_name_eq_some_iff ofName?_name

lemma name_injective : Function.Injective name := by
  intro t t' h
  apply Option.some_inj.mp
  rw [← ofName?_name t, h, ofName?_name t']

lemma ofJson?_inputSchema (t : Tool) :
    Schema.ofJson? t.inputSchema = some (.objects ["code"] [("code", .strings)]) := by
  cases t <;> rfl

lemma mem_lookup_code_iff {key : Text} {s : Schema} :
    s ∈ [(("code" : Text), Schema.strings)].lookup key ↔ key = "code" ∧ s = .strings := by
  rw [List.lookup_cons]
  cases hk : key == ("code" : Text) with
  | true => simp [beq_iff_eq.mp hk, eq_comm]
  | false =>
    exact iff_of_false (Option.some_ne_none s).symm (fun h => beq_eq_false_iff_ne.mp hk h.1)

lemma check_inputSchema_eq_ok_iff {t : Tool} {v : Json} :
    Schema.check t.inputSchema v = .ok () ↔ ∃ members : Members, v = .obj members ∧
      (members.get? "code").isSome ∧ ∀ m ∈ members, m.1 = "code" → ∃ s, m.2 = .str s := by
  rw [Schema.check_eq_ok_iff t.ofJson?_inputSchema, Schema.violation?_objects_eq_none_iff]
  simp only [List.mem_singleton, forall_eq, mem_lookup_code_iff, and_imp, forall_eq_apply_imp_iff,
    Schema.violation?_strings_eq_none_iff]

lemma decode_of_get?_code {members : Members} {code : Text}
    (h : members.get? "code" = some (.str code)) :
    (Decodable.decode (.obj members) : Decoded CodeArgument) = .ok ⟨code⟩ := by
  change CodeArgument.ofMembers members = _
  rw [CodeArgument.ofMembers, Members.member?, h]
  rfl

lemma get?_code_of_check {t : Tool} {v : Json} (h : Schema.check t.inputSchema v = .ok ()) :
    ∃ (members : Members) (code : Text), v = .obj members ∧ members.get? "code" = some (.str code) := by
  obtain ⟨members, rfl, hsome, hall⟩ := check_inputSchema_eq_ok_iff.mp h
  obtain ⟨w, hw⟩ := Option.isSome_iff_exists.mp hsome
  obtain ⟨code, rfl⟩ := hall _ (Members.mem_of_get? hw) rfl
  exact ⟨members, code, rfl, hw⟩

lemma check_of_get?_code {t : Tool} {members : Members} (hm : members.Ascending) {code : Text}
    (h : members.get? "code" = some (.str code)) :
    Schema.check t.inputSchema (.obj members) = .ok () := by
  rw [check_inputSchema_eq_ok_iff]
  refine ⟨members, rfl, by rw [h]; rfl, ?_⟩
  rintro ⟨key, w⟩ hmem rfl
  rw [hm.get?_eq_some_iff.mpr hmem] at h
  exact ⟨code, Option.some_inj.mp h⟩

lemma inputSchema_eq (t : Tool) : t.inputSchema = .obj [
    ("properties", .obj [("code", .obj [("description", .str t.codeDescription),
      ("type", .str Kind.string.name)])]),
    ("required", .arr [.str "code"]), ("type", .str Kind.object.name)] := by
  cases t <;> rfl

lemma satisfies_code_iff {description : Text} {v : Json} :
    Satisfies (.obj [("description", .str description), ("type", .str Kind.string.name)]) v ↔
      ∃ s, v = .str s := by
  constructor
  · rintro ⟨_, hkind, _, _⟩
    have h := hkind .string rfl
    cases v with
    | str s => exact ⟨s, rfl⟩
    | _ => cases h
  · rintro ⟨s, rfl⟩
    refine .intro (by simp) ?_ ?_ ?_
    · intro k hk
      cases Kind.name_injective (Json.str.inj (Option.some.inj hk))
      rfl
    · rintro _ _ _ ⟨⟩
    · rintro _ _ _ ⟨⟩

lemma satisfies_inputSchema_iff {t : Tool} {v : Json} :
    Satisfies t.inputSchema v ↔ Schema.check t.inputSchema v = .ok () := by
  rw [check_inputSchema_eq_ok_iff, inputSchema_eq]
  constructor
  · rintro ⟨_, hkind, hrequired, hproperties⟩
    have h := hkind .object rfl
    cases v with
    | obj members =>
      refine ⟨members, rfl, hrequired _ rfl members rfl _ (List.mem_singleton_self _), ?_⟩
      rintro ⟨key, w⟩ hm rfl
      exact satisfies_code_iff.mp (hproperties _ rfl members rfl _ hm _ rfl)
    | _ => cases h
  · rintro ⟨members, rfl, hcode, hstring⟩
    refine .intro (by simp) ?_ ?_ ?_
    · intro k hk
      cases Kind.name_injective (Json.str.inj (Option.some.inj hk))
      rfl
    · intro names hnames members' he name hname
      cases hnames
      cases he
      cases List.mem_singleton.mp hname
      exact hcode
    · intro schemas hschemas members' he m hm schema hschema
      cases hschemas
      cases he
      obtain ⟨hkey, rfl⟩ := Prod.mk.inj (List.mem_singleton.mp (Members.mem_of_get? hschema))
      exact satisfies_code_iff.mpr (hstring m hm hkey)

lemma codeOf_arr (t : Tool) (items : List Json) : ∃ e, t.codeOf (.arr items) = .error (.schema e) := by
  cases hcheck : Schema.check t.inputSchema (.arr items) with
  | error e => exact ⟨e, by rw [codeOf, hcheck]; rfl⟩
  | ok u =>
    obtain ⟨_, _, harr, _⟩ := get?_code_of_check hcheck
    cases harr

lemma codeOf_eq_ok_iff {t : Tool} {v : Json} (hv : v.Ordered) {c : CodeArgument} :
    t.codeOf v = .ok c ↔
      ∃ members : Members, v = .obj members ∧ members.get? "code" = some (.str c.code) := by
  constructor
  · intro h
    cases hcheck : Schema.check t.inputSchema v with
    | error e =>
      rw [codeOf, hcheck] at h
      cases h
    | ok u =>
      obtain ⟨members, code, rfl, hcode⟩ := get?_code_of_check hcheck
      rw [codeOf, hcheck, decode_of_get?_code hcode] at h
      cases h
      exact ⟨members, rfl, hcode⟩
  · rintro ⟨members, rfl, hcode⟩
    cases hv with
    | obj ha _ =>
      rw [codeOf, check_of_get?_code ha hcode, decode_of_get?_code hcode]
      rfl

lemma exists_codeOf_iff {t : Tool} {v : Json} :
    (∃ c, t.codeOf v = .ok c) ↔ Schema.check t.inputSchema v = .ok () := by
  constructor
  · rintro ⟨c, h⟩
    cases hcheck : Schema.check t.inputSchema v with
    | error e =>
      rw [codeOf, hcheck] at h
      cases h
    | ok u => rfl
  · intro hcheck
    obtain ⟨members, code, rfl, hcode⟩ := get?_code_of_check hcheck
    refine ⟨⟨code⟩, ?_⟩
    rw [codeOf, hcheck, decode_of_get?_code hcode]
    rfl

lemma satisfies_iff_exists_codeOf {t : Tool} {v : Json} :
    Satisfies t.inputSchema v ↔ ∃ c, t.codeOf v = .ok c := by
  rw [satisfies_inputSchema_iff, exists_codeOf_iff]

variable {σ : Type} [WordSource σ]

lemma result_run (t : Tool) (code : Text) (s : σ) : ∃ text, (t.run code s).result = .ofText text := by
  cases t with
  | check => exact ⟨_, rfl⟩
  | fill => exact ⟨_, rfl⟩

end Tool

namespace ToolCall

variable {σ : Type} [WordSource σ]

inductive Runs (call : ToolCall) (s : σ) : Tool.Run σ → Prop
  | unknown : (∀ tool : Tool, call.name ≠ tool.name) →
      Runs call s (fail .unknownTool ("Unknown tool: " ++ call.name) s [])
  | missing {tool : Tool} : call.name = tool.name → call.arguments = none →
      Runs call s (fail .invalidArguments ("Missing arguments for " ++ call.name) s [])
  | refused {tool : Tool} {arguments : Json} {e : Tool.Refusal} : call.name = tool.name →
      call.arguments = some arguments → tool.codeOf arguments = .error e →
      Runs call s (fail .invalidArguments
        ("Invalid arguments for " ++ call.name ++ ": " ++ e.message) s (e.events tool))
  | done {tool : Tool} {arguments : Json} {c : CodeArgument} : call.name = tool.name →
      call.arguments = some arguments → tool.codeOf arguments = .ok c →
      Runs call s (tool.run c.code s)

lemma runs (call : ToolCall) (s : σ) : Runs call s (call.run s) := by
  rw [run]
  split
  · rename_i hn
    refine .unknown (fun tool ht => ?_)
    rw [Tool.ofName?_eq_some_iff.mpr ht] at hn
    cases hn
  · rename_i tool hn
    rw [Tool.ofName?_eq_some_iff] at hn
    split
    · rename_i ha
      exact .missing hn ha
    · rename_i arguments ha
      split
      · rename_i e hc
        exact .refused hn ha hc
      · rename_i c hc
        exact .done hn ha hc

lemma Runs.result {call : ToolCall} {s : σ} {run : Tool.Run σ} (h : Runs call s run) :
    (∃ f : Failure, f.Blames ∧ run.result = .ofFailure f) ∨ ∃ text, run.result = .ofText text := by
  cases h with
  | unknown | missing | refused => exact Or.inl ⟨_, ⟨rfl, by simp⟩, rfl⟩
  | done => exact Or.inr (Tool.result_run _ _ s)

lemma Runs.source {call : ToolCall} {s : σ} {run : Tool.Run σ} (h : Runs call s run)
    (hn : ∀ arguments c, call.name = Tool.fill.name → call.arguments = some arguments →
      Tool.fill.codeOf arguments ≠ .ok c) : run.source = s := by
  cases h with
  | unknown | missing | refused => rfl
  | @done tool arguments c hname ha hc =>
    cases tool with
    | check => rfl
    | fill => exact absurd hc (hn arguments c hname ha)

end ToolCall

end TemplateServer
