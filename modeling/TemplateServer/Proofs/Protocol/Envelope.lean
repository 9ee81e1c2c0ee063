import Mathlib.Tactic.Lemma
import TemplateServer.Proofs.Protocol.Request

namespace TemplateServer

open Json

namespace Json

lemma asText_eq_ok_iff {v : Json} {s : Text} : asText v = .ok s ↔ v = .str s := by
  constructor
  · intro h
    cases v with
    | str t =>
      cases h
      rfl
    | null | bool | int | double | arr | obj => cases h
  · rintro rfl
    rfl

inductive Maybe {α : Type} (means : Json → α → Prop) : Option Json → Option α → Prop
  | missing : Maybe means none none
  | null : Maybe means (some .null) none
  | given {v : Json} {x : α} : v ≠ .null → means v x → Maybe means (some v) (some x)

section

variable {α : Type} {means : Json → α → Prop} {decode : Json → Decoded α}
  (h : ∀ v x, decode v = .ok x ↔ means v x)

include h

lemma asOption_eq_ok_iff {v : Json} {x : Option α} :
    asOption decode v = .ok x ↔ Maybe means (some v) x := by
  by_cases hv : v = .null
  · subst hv
    constructor
    · rintro ⟨⟩
      exact .null
    · rintro (_ | _ | ⟨hne, _⟩)
      · rfl
      · exact absurd rfl hne
  · have hmap : asOption decode v = (decode v).map some := by
      cases v with
      | null => exact absurd rfl hv
      | bool | int | double | str | arr | obj => rfl
    rw [hmap]
    constructor
    · intro hx
      obtain ⟨y, hy, rfl⟩ := map_eq_ok hx
      exact .given hv ((h _ _).mp hy)
    · rintro (_ | _ | ⟨_, hm⟩)
      · exact absurd rfl hv
      · rw [(h _ _).mpr hm]
        rfl

lemma Members.exists_member?_iff {members : Members} {field : Text} {x : Option α} :
    (∃ y, members.member? field (asOption decode) = .ok y ∧ y.join = x) ↔
      Maybe means (members.get? field) x := by
  rw [member?]
  cases members.get? field with
  | none =>
    constructor
    · rintro ⟨_, ⟨⟩, rfl⟩
      exact .missing
    · rintro ⟨⟩
      exact ⟨none, rfl, rfl⟩
  | some v =>
    constructor
    · rintro ⟨y, hy, rfl⟩
      obtain ⟨z, hz, rfl⟩ := map_eq_ok hy
      exact (asOption_eq_ok_iff h).mp hz
    · intro hx
      refine ⟨some x, ?_, rfl⟩
      dsimp only
      rw [(asOption_eq_ok_iff h).mpr hx]
      rfl

end

lemma ok_eq_ok_iff (v w : Json) : (Except.ok v : Decoded Json) = .ok w ↔ v = w := by
  rw [Except.ok.injEq]

lemma Members.exists_member?_text_iff {members : Members} {field : Text} {s : Text} :
    (∃ y, members.member? field asText = .ok y ∧ present field y = .ok s) ↔
      members.get? field = some (.str s) := by
  rw [member?]
  cases members.get? field with
  | none =>
    constructor
    · rintro ⟨_, ⟨⟩, h⟩
      cases h
    · rintro ⟨⟩
  | some v =>
    constructor
    · rintro ⟨y, hy, hs⟩
      obtain ⟨t, ht, rfl⟩ := map_eq_ok hy
      cases hs
      rw [asText_eq_ok_iff.mp ht]
    · rintro ⟨⟩
      exact ⟨some s, rfl, rfl⟩

end Json

def RequestId.Denotes (v : Json) (id : RequestId) : Prop := v = id.json ∧ id.InRange

lemma RequestId.decode_eq_ok_iff_denotes (v : Json) (id : RequestId) :
    decode v = .ok id ↔ Denotes v id := decode_eq_ok_iff

namespace Request

inductive Denotes : Json → Request → Prop
  | members {members : Members} {r : Request} :
      members.get? "jsonrpc" = some (.str r.version) →
      Maybe RequestId.Denotes (members.get? "id") r.id →
      members.get? "method" = some (.str r.method) →
      Maybe Eq (members.get? "params") r.params → Denotes (.obj members) r
  | items {id params : Json} {r : Request} : Maybe RequestId.Denotes (some id) r.id →
      Maybe Eq (some params) r.params →
      Denotes (.arr [.str r.version, id, .str r.method, params]) r

lemma ofMembers_eq_ok_iff {members : Members} {r : Request} :
    ofMembers members = .ok r ↔ Denotes (.obj members) r := by
  constructor
  · intro h
    obtain ⟨id, hid, h⟩ := bind_eq_ok h
    obtain ⟨version, hversion, h⟩ := bind_eq_ok h
    obtain ⟨method, hmethod, h⟩ := bind_eq_ok h
    obtain ⟨params, hparams, h⟩ := bind_eq_ok h
    obtain ⟨v, hv, h⟩ := bind_eq_ok h
    obtain ⟨m, hm, h⟩ := bind_eq_ok h
    cases h
    exact .members (Members.exists_member?_text_iff.mp ⟨version, hversion, hv⟩)
      ((Members.exists_member?_iff RequestId.decode_eq_ok_iff_denotes).mp ⟨id, hid, rfl⟩)
      (Members.exists_member?_text_iff.mp ⟨method, hmethod, hm⟩)
      ((Members.exists_member?_iff ok_eq_ok_iff).mp ⟨params, hparams, rfl⟩)
  · rintro (⟨hversion, hid, hmethod, hparams⟩ | _)
    obtain ⟨version, hversion, hv⟩ := Members.exists_member?_text_iff.mpr hversion
    obtain ⟨id, hid, hi⟩ :=
      (Members.exists_member?_iff RequestId.decode_eq_ok_iff_denotes).mpr hid
    obtain ⟨method, hmethod, hm⟩ := Members.exists_member?_text_iff.mpr hmethod
    obtain ⟨params, hparams, hp⟩ := (Members.exists_member?_iff ok_eq_ok_iff).mpr hparams
    rw [ofMembers, hid, hversion, hmethod, hparams]
    simp only [bind, Except.bind, hv, hm, hi, hp]
    rfl

lemma ofItems_eq_ok_iff {items : List Json} {r : Request} :
    (∃ rest, ofItems (.ofList items) = .ok (r, rest) ∧ rest.left = []) ↔
      Denotes (.arr items) r := by
  constructor
  · rintro ⟨rest, h, hrest⟩
    obtain ⟨⟨version, left1⟩, hversion, h⟩ := bind_eq_ok h
    obtain ⟨⟨id, left2⟩, hid, h⟩ := bind_eq_ok h
    obtain ⟨⟨method, left3⟩, hmethod, h⟩ := bind_eq_ok h
    obtain ⟨⟨params, left4⟩, hparams, h⟩ := bind_eq_ok h
    cases h
    obtain ⟨v1, h1, hd1⟩ := Items.decode_of_next hversion
    obtain ⟨v2, h2, hd2⟩ := Items.decode_of_next hid
    obtain ⟨v3, h3, hd3⟩ := Items.decode_of_next hmethod
    obtain ⟨v4, h4, hd4⟩ := Items.decode_of_next hparams
    have hitems : items = [v1, v2, v3, v4] := by
      rw [← hrest, ← h4, ← h3, ← h2, ← h1]
      rfl
    rw [hitems, asText_eq_ok_iff.mp hd1, asText_eq_ok_iff.mp hd3]
    exact .items (r := ⟨version, id, method, params⟩)
      ((asOption_eq_ok_iff RequestId.decode_eq_ok_iff_denotes).mp hd2)
      ((asOption_eq_ok_iff ok_eq_ok_iff).mp hd4)
  · rintro (_ | ⟨hid, hparams⟩)
    rw [← asOption_eq_ok_iff RequestId.decode_eq_ok_iff_denotes] at hid
    rw [← asOption_eq_ok_iff ok_eq_ok_iff] at hparams
    refine ⟨⟨[], 4⟩, ?_, rfl⟩
    simp only [ofItems, Items.ofList, Items.next, asText, hid, hparams, bind, Except.bind,
      Except.map]
    rfl

lemma decode_eq_ok_iff_denotes {v : Json} {r : Request} :
    (Decodable.decode v : Decoded Request) = .ok r ↔ Denotes v r := by
  cases v with
  | obj members => exact ofMembers_eq_ok_iff
  | arr items =>
    rw [← ofItems_eq_ok_iff]
    constructor
    · intro h
      obtain ⟨⟨x, rest⟩, hx, h⟩ := bind_eq_ok h
      obtain ⟨_, hfinish, h⟩ := bind_eq_ok h
      cases h
      refine ⟨rest, hx, ?_⟩
      rw [Items.finish] at hfinish
      split at hfinish
      · next hempty => exact List.isEmpty_iff.mp hempty
      · cases hfinish
    · rintro ⟨rest, hx, hrest⟩
      change (ofItems (.ofList items) >>= _) = _
      rw [hx]
      change (rest.finish >>= _) = _
      rw [Items.finish, hrest]
      rfl
  | null | bool | int | double | str =>
    constructor
    · rintro ⟨⟩
    · rintro ⟨⟩

end Request

end TemplateServer
