import Mathlib.Data.List.Nodup
import Mathlib.Tactic.Lemma
import TemplateServer.Catalog.Prompts
import TemplateServer.Catalog.Resources

namespace TemplateServer

open Json

inductive ResourceQuery.Reads (q : ResourceQuery) : Except Failure Json → Prop
  | unknown : (∀ r ∈ Resource.all, r.uri ≠ q.uri) → Reads q (.error (.plain .resourceNotFound))
  | found {r : Resource} : r ∈ Resource.all → r.uri = q.uri → Reads q (.ok r.contents)

lemma ResourceQuery.reads (q : ResourceQuery) : q.Reads q.read := by
  rw [read]
  split
  · next hf =>
    apply Reads.unknown
    simpa using List.find?_eq_none.mp hf
  · next r hf =>
    exact .found (List.mem_of_find?_eq_some hf) (by simpa using List.find?_some hf)

inductive PromptQuery.Expands (q : PromptQuery) : Except Failure Json → Prop
  | unknown : (∀ p ∈ Prompt.all, p.name ≠ q.name) → Expands q (.error (.plain .promptNotFound))
  | missing {p : Prompt} : p ∈ Prompt.all → p.name = q.name →
      (∀ value, (p.argument.name, value) ∉ q.arguments) →
      Expands q
        (.error ⟨.invalidArguments, "Missing required argument: " ++ p.argument.name⟩)
  | found {p : Prompt} {value : Text} : p ∈ Prompt.all → p.name = q.name →
      (p.argument.name, value) ∈ q.arguments → Expands q (.ok (p.expand value))

lemma PromptQuery.expands (q : PromptQuery) : q.Expands q.expand := by
  rw [expand]
  split
  · next hf =>
    apply Expands.unknown
    simpa using List.find?_eq_none.mp hf
  · next p hf =>
    have hp : p ∈ Prompt.all := List.mem_of_find?_eq_some hf
    have hn : p.name = q.name := by simpa using List.find?_some hf
    split
    · next hl =>
      apply Expands.missing hp hn
      intro value hm
      simpa using List.lookup_eq_none_iff.mp hl _ hm
    · next value hl =>
      apply Expands.found hp hn
      obtain ⟨before, after, he, _⟩ := List.lookup_eq_some_iff.mp hl
      rw [he]
      exact List.mem_append_right _ List.mem_cons_self

lemma Prompt.required_argument {p : Prompt} (hp : p ∈ all) : p.argument.required = true := by
  have hall : ∀ p ∈ all, p.argument.required = true := by decide
  exact hall p hp

lemma Prompt.eq_of_name {p p' : Prompt} (hp : p ∈ all) (hp' : p' ∈ all) (h : p.name = p'.name) :
    p = p' := by
  have hn : (all.map name).Nodup := by decide
  exact List.inj_on_of_nodup_map hn hp hp' h

end TemplateServer
