import TemplateServer.Proofs.Json.Ordered
import TemplateServer.Protocol.Request

namespace TemplateServer

open Json

namespace RequestId

def InRange : RequestId → Prop
  | number n => -0x8000000000000000 ≤ n ∧ n < 0x8000000000000000
  | name _ => True

lemma decode_eq_ok_iff {v : Json} {id : RequestId} :
    decode v = .ok id ↔ v = id.json ∧ id.InRange := by
  constructor
  · intro h
    cases v with
    | int n =>
      rw [decode] at h
      split at h
      · rename_i hn
        cases h
        exact ⟨rfl, hn⟩
      · cases h
    | str s =>
      cases h
      exact ⟨rfl, trivial⟩
    | null | bool | double | arr | obj => cases h
  · rintro ⟨rfl, h⟩
    cases id with
    | number n => exact if_pos h
    | name s => rfl

end RequestId

namespace Request

structure OfParts (v : Json) (r : Request) : Prop where
  id : ∀ id ∈ r.id, ∃ w, Part v w ∧ RequestId.decode w = .ok id
  params : ∀ p ∈ r.params, Part v p

lemma ofParts_of_ofMembers {members : Members} {r : Request} (h : ofMembers members = .ok r) :
    OfParts (.obj members) r := by
  obtain ⟨id, hid, h⟩ := bind_eq_ok h
  obtain ⟨version, _, h⟩ := bind_eq_ok h
  obtain ⟨method, _, h⟩ := bind_eq_ok h
  obtain ⟨params, hparams, h⟩ := bind_eq_ok h
  obtain ⟨version, _, h⟩ := bind_eq_ok h
  obtain ⟨method, _, h⟩ := bind_eq_ok h
  cases h
  constructor
  · intro i hi
    cases Option.join_eq_some_iff.mp hi
    obtain ⟨w, hw, hd⟩ := Members.decode_of_member? hid
    exact ⟨w, hw, decode_of_asOption hd⟩
  · intro p hp
    cases Option.join_eq_some_iff.mp hp
    obtain ⟨w, hw, hd⟩ := Members.decode_of_member? hparams
    cases decode_of_asOption hd
    exact hw

lemma ofParts_of_ofItems {items : List Json} {rest : Items} {r : Request}
    (h : ofItems (.ofList items) = .ok (r, rest)) : OfParts (.arr items) r := by
  obtain ⟨⟨version, left⟩, hversion, h⟩ := bind_eq_ok h
  obtain ⟨⟨id, left⟩, hid, h⟩ := bind_eq_ok h
  obtain ⟨⟨method, left⟩, hmethod, h⟩ := bind_eq_ok h
  obtain ⟨⟨params, left⟩, hparams, h⟩ := bind_eq_ok h
  cases h
  obtain ⟨v1, h1, _⟩ := Items.decode_of_next hversion
  obtain ⟨v2, h2, hd2⟩ := Items.decode_of_next hid
  obtain ⟨v3, h3, _⟩ := Items.decode_of_next hmethod
  obtain ⟨v4, h4, hd4⟩ := Items.decode_of_next hparams
  have hitems : items = v1 :: v2 :: v3 :: v4 :: rest.left := by rw [← h4, ← h3, ← h2, ← h1]; rfl
  constructor
  · rintro i ⟨⟩
    exact ⟨v2, .item (by simp [hitems]), decode_of_asOption hd2⟩
  · rintro p ⟨⟩
    cases decode_of_asOption hd4
    exact .item (by simp [hitems])

lemma ofParts_of_decode {v : Json} {r : Request} (h : decode v = .ok r) : OfParts v r := by
  rcases asRecord_eq_ok h with ⟨members, rfl, hm⟩ | ⟨items, rest, rfl, hi⟩
  · exact ofParts_of_ofMembers hm
  · exact ofParts_of_ofItems hi

lemma inRange_of_decodeText? {s : Text} {r : Request} (h : decodeText? s = some r) {id : RequestId}
    (hid : r.id = some id) : id.InRange := by
  obtain ⟨_, v, _, hv⟩ := decode_of_decodeText? h
  obtain ⟨w, _, hw⟩ := (ofParts_of_decode hv).id id hid
  exact (RequestId.decode_eq_ok_iff.mp hw).2

lemma ordered_of_decodeText? {s : Text} {r : Request} (h : decodeText? s = some r) {p : Json}
    (hp : r.params = some p) : p.Ordered := by
  obtain ⟨f, v, hv, hd⟩ := decode_of_decodeText? h
  exact (ordered_of_value? hv).part ((ofParts_of_decode hd).params p hp)

end Request

namespace ToolCall

lemma part_of_decode {v : Json} {call : ToolCall}
    (h : (Decodable.decode v : Decoded ToolCall) = .ok call) : ∀ a ∈ call.arguments, Part v a := by
  rcases asRecord_eq_ok h with ⟨members, rfl, hm⟩ | ⟨items, rest, rfl, hi⟩
  · obtain ⟨arguments, harguments, hm⟩ := bind_eq_ok hm
    obtain ⟨name, _, hm⟩ := bind_eq_ok hm
    obtain ⟨name, _, hm⟩ := bind_eq_ok hm
    cases hm
    intro a ha
    cases Option.join_eq_some_iff.mp ha
    obtain ⟨w, hw, hd⟩ := Members.decode_of_member? harguments
    cases decode_of_asOption hd
    exact hw
  · obtain ⟨⟨name, left⟩, hname, hi⟩ := bind_eq_ok hi
    obtain ⟨⟨arguments, left⟩, harguments, hi⟩ := bind_eq_ok hi
    cases hi
    obtain ⟨v1, h1, _⟩ := Items.decode_of_next hname
    obtain ⟨v2, h2, hd2⟩ := Items.decode_of_next harguments
    have hitems : items = v1 :: v2 :: rest.left := by rw [← h2, ← h1]; rfl
    rintro a ⟨⟩
    cases decode_of_asOption hd2
    exact .item (by simp [hitems])

end ToolCall

end TemplateServer
