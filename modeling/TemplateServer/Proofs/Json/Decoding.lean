import Mathlib.Tactic.Lemma
import TemplateServer.Json.Decode

namespace TemplateServer.Json

lemma bind_eq_ok {α β : Type} {x : Decoded α} {f : α → Decoded β} {b : β}
    (h : (x >>= f) = .ok b) : ∃ a, x = .ok a ∧ f a = .ok b := by
  cases x with
  | error e => cases h
  | ok a => exact ⟨a, rfl, h⟩

lemma map_eq_ok {α β : Type} {x : Decoded α} {f : α → β} {b : β} (h : x.map f = .ok b) :
    ∃ a, x = .ok a ∧ f a = b := by
  cases x with
  | error e => cases h
  | ok a =>
    cases h
    exact ⟨a, rfl, rfl⟩

inductive Part : Json → Json → Prop
  | item {items : List Json} {w : Json} : w ∈ items → Part (.arr items) w
  | member {members : Members} {key : Text} {w : Json} : (key, w) ∈ members → Part (.obj members) w

lemma Members.mem_of_get? {members : Members} {key : Text} {v : Json} (h : members.get? key = some v) :
    (key, v) ∈ members := by
  induction members with
  | nil => cases h
  | cons n rest ih =>
    obtain ⟨k, w⟩ := n
    rw [get?, List.lookup_cons] at h
    cases hk : key == k with
    | true =>
      rw [hk] at h
      cases h
      rw [beq_iff_eq.mp hk]
      exact List.mem_cons_self
    | false =>
      rw [hk] at h
      exact List.mem_cons_of_mem _ (ih h)

variable {α : Type} {decode : Json → Decoded α}

lemma decode_of_asOption {v : Json} {x : α} (h : asOption decode v = .ok (some x)) :
    decode v = .ok x := by
  rw [asOption.eq_def] at h
  split at h
  · cases h
  · obtain ⟨a, ha, hx⟩ := map_eq_ok h
    cases hx
    exact ha

lemma Members.decode_of_member? {members : Members} {field : Text} {x : α}
    (h : members.member? field decode = .ok (some x)) :
    ∃ v, Part (.obj members) v ∧ decode v = .ok x := by
  rw [member?] at h
  split at h
  · cases h
  · rename_i v hv
    obtain ⟨a, ha, hx⟩ := map_eq_ok h
    cases hx
    exact ⟨v, .member (mem_of_get? hv), ha⟩

lemma Items.decode_of_next {items rest : Items} {record : Text} {fields : Nat} {x : α}
    (h : items.next record fields decode = .ok (x, rest)) :
    ∃ v, items.left = v :: rest.left ∧ decode v = .ok x := by
  rw [next] at h
  split at h
  · cases h
  · rename_i v left hv
    obtain ⟨a, ha, hx⟩ := map_eq_ok h
    cases hx
    exact ⟨v, hv, ha⟩

lemma asRecord_eq_ok {name : Text} {ofMembers : Members → Decoded α}
    {ofItems : Items → Decoded (α × Items)} {v : Json} {x : α}
    (h : asRecord name ofMembers ofItems v = .ok x) :
    (∃ members, v = .obj members ∧ ofMembers members = .ok x) ∨
      ∃ items rest, v = .arr items ∧ ofItems (.ofList items) = .ok (x, rest) := by
  cases v with
  | obj members => exact Or.inl ⟨members, rfl, h⟩
  | arr items =>
    obtain ⟨⟨y, rest⟩, hy, h⟩ := bind_eq_ok h
    obtain ⟨_, _, h⟩ := bind_eq_ok h
    cases h
    exact Or.inr ⟨items, rest, rfl, hy⟩
  | null | bool | int | double | str => cases h

lemma decode_of_decodeText? [Decodable α] {s : Text} {x : α} (h : decodeText? s = some x) :
    ∃ (f : Form) (v : Json), f.value? maxDepth = some v ∧ (Decodable.decode v : Decoded α) = .ok x := by
  obtain ⟨f, _, h⟩ := Option.bind_eq_some_iff.mp h
  obtain ⟨g, _, h⟩ := Option.bind_eq_some_iff.mp h
  obtain ⟨v, hv, h⟩ := Option.bind_eq_some_iff.mp h
  refine ⟨g, v, hv, ?_⟩
  cases hd : (Decodable.decode v : Decoded α) with
  | error e =>
    rw [hd] at h
    cases h
  | ok y =>
    rw [hd] at h
    cases h
    rfl

end TemplateServer.Json
