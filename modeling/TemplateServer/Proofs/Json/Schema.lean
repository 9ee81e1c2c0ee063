import Mathlib.Tactic.Lemma
import TemplateServer.Json.Schema

namespace TemplateServer.Json

namespace Schema

def strings : Schema := rules (some [.string]) none 0 [] [] false none

def objects (required : List Text) (properties : List (Text × Schema)) : Schema :=
  rules (some [.object]) none 0 required properties false none

lemma ofProperties?_eq (properties : List (Text × Schema)) (member : Text) (v : Json) :
    ofProperties? properties member v = (properties.lookup member).map (violation? · v) := by
  induction properties with
  | nil => rfl
  | cons p rest ih =>
    obtain ⟨k, s⟩ := p
    rw [ofProperties?, List.lookup_cons]
    by_cases h : k = member
    · rw [if_pos h, h, beq_self_eq_true]
      rfl
    · rw [if_neg h, beq_false_of_ne (Ne.symm h)]
      exact ih

lemma ofRequired?_eq_none_iff {required : List Text} {members : Members} :
    ofRequired? required members = none ↔ ∀ name ∈ required, (members.get? name).isSome := by
  simp only [ofRequired?, Option.map_eq_none_iff, List.find?_eq_none, Option.isNone_iff_eq_none,
    Option.isSome_iff_ne_none, Ne]

lemma violation?_strings_eq_none_iff {v : Json} : violation? strings v = none ↔ ∃ s, v = .str s := by
  rw [strings, violation?.eq_def]
  cases v <;> simp [ofKinds?, ofChoices?, ofLength?, Kind.holds]

lemma member_eq_none_iff {properties : List (Text × Schema)} {m : Text × Json} :
    (match ofProperties? properties m.1 m.2 with
      | some found => found
      | none => if false then some (.unexpected m.1) else ofOthers? none m.2) = none ↔
      ∀ s ∈ properties.lookup m.1, violation? s m.2 = none := by
  rw [ofProperties?_eq]
  cases properties.lookup m.1 with
  | none => simp [ofOthers?]
  | some s => simp

lemma violation?_objects_eq_none_iff {required : List Text} {properties : List (Text × Schema)}
    {v : Json} :
    violation? (objects required properties) v = none ↔
      ∃ members : Members, v = .obj members ∧
        (∀ name ∈ required, (members.get? name).isSome) ∧
        ∀ m ∈ members, ∀ s ∈ properties.lookup m.1, violation? s m.2 = none := by
  rw [objects, violation?.eq_def]
  cases v with
  | obj members =>
    have hkind : ofKinds? (some [.object]) (.obj members) = none := rfl
    have hchoice : ofChoices? none (.obj members) = none := rfl
    have hlength : ofLength? 0 (.obj members) = none := rfl
    simp only [hkind, hchoice, hlength, Option.orElse_eq_orElse, Option.orElse_eq_or, Option.none_or,
      Option.or_eq_none_iff, ofRequired?_eq_none_iff, List.findSome?_eq_none_iff, obj.injEq,
      exists_eq_left']
    exact and_congr_right' (forall₂_congr fun m _ => member_eq_none_iff)
  | null | bool | int | double | str | arr => simp [ofKinds?, Kind.holds]

lemma check_eq_ok_iff {schema v : Json} {s : Schema} (h : ofJson? schema = some s) :
    check schema v = .ok () ↔ violation? s v = none := by
  simp only [check, h]
  cases violation? s v <;> simp

end Schema

lemma Kind.ofName?_name (k : Kind) : ofName? k.name = some k := by cases k <;> rfl

lemma Kind.name_injective : Function.Injective name := by
  intro k k' h
  apply Option.some_inj.mp
  rw [← ofName?_name k, h, ofName?_name k']

inductive Satisfies : Json → Json → Prop
  | intro {keywords : Members} {v : Json}
      (known : ∀ k ∈ keywords, k.1 ∈ [("type" : Text), "required", "properties", "description"])
      (kind : ∀ k : Kind, keywords.get? "type" = some (.str k.name) → k.holds v = true)
      (required : ∀ names, keywords.get? "required" = some (.arr names) →
        ∀ members : Members, v = .obj members → ∀ name, .str name ∈ names →
          (members.get? name).isSome)
      (properties : ∀ schemas : Members, keywords.get? "properties" = some (.obj schemas) →
        ∀ members : Members, v = .obj members → ∀ m ∈ members, ∀ schema,
          schemas.get? m.1 = some schema → Satisfies schema m.2) :
      Satisfies (.obj keywords) v

end TemplateServer.Json
