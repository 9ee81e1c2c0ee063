import TemplateServer.Proofs.Json.OneLine
import TemplateServer.Proofs.Protocol.Request
import TemplateServer.Protocol.Response
import TemplateServer.Server.Stream

/-! A response on the wire: one line, which reads as an object with the id of the response. -/

namespace TemplateServer

open Json

namespace RequestId

lemma readable_json {id : RequestId} (h : id.InRange) (d : Nat) : Readable d id.json := by
  cases id with
  | number n => exact .int h.1 (Int.lt_trans h.2 (by decide))
  | name s => exact .str s

lemma sorted_json (id : RequestId) : id.json.sorted = id.json := by cases id <;> rfl

end RequestId

namespace Response

structure Sound (r : Response) : Prop where
  id : ∀ i ∈ r.id, i.InRange
  outcome : Readable 126 r.outcomeMember.2

lemma readable_json {r : Response} (h : r.Sound) : Readable maxDepth r.json := by
  have hv : Readable 126 (.str "2.0") := .str _
  rw [json]
  split
  · apply Readable.obj
    simp only [List.forall_mem_cons]
    exact ⟨hv, h.outcome, fun _ hm => absurd hm List.not_mem_nil⟩
  · rename_i i hi
    apply Readable.obj
    simp only [List.forall_mem_cons]
    have hid := RequestId.readable_json (h.id i hi) 126
    exact ⟨hv, hid, h.outcome, fun _ hm => absurd hm List.not_mem_nil⟩

structure Carries (members : Members) (id : Option RequestId) : Prop where
  version : members.get? "jsonrpc" = some (.str "2.0")
  outcome : (members.get? "result").isSome ≠ (members.get? "error").isSome
  id : (members.get? "id").map RequestId.decode = id.map .ok

lemma get?_insert (members : Members) (key k : Text) (v : Json) :
    (members.insert k v).get? key = if key = k then some v else members.get? key := by
  split
  · rename_i h
    rw [h, Members.get?_insert_self]
  · rename_i h
    exact Members.get?_insert_of_ne h v members

lemma carries_json {r : Response} (h : ∀ i ∈ r.id, i.InRange) :
    ∃ members, r.json.sorted = .obj members ∧ Carries members r.id := by
  obtain ⟨id, outcome⟩ := r
  have hget : ∀ key, Members.get? [] key = none := fun _ => rfl
  cases id with
  | none =>
    cases outcome <;> refine ⟨_, rfl, ?_, ?_, ?_⟩ <;>
      simp [sorted, sortedMembers, get?_insert, hget, outcomeMember]
  | some i =>
    have hi := RequestId.decode_eq_ok_iff.mpr ⟨rfl, h i rfl⟩
    cases outcome <;> refine ⟨_, rfl, ?_, ?_, ?_⟩ <;>
      simp [sorted, sortedMembers, get?_insert, hget, outcomeMember, RequestId.sorted_json, hi]

def Framed (bytes : Bytes) (id : Option RequestId) : Prop :=
  ∃ body text members, bytes = body ++ [lineFeed] ∧ lineFeed ∉ body ∧
    Text.ofBytes? body = some text ∧ Json.read? text = some (.obj members) ∧ Carries members id

lemma framed_line {r : Response} (h : r.Sound) : Framed r.line.bytes r.id := by
  have hr := readable_json h
  obtain ⟨members, hm, hc⟩ := carries_json h.id
  refine ⟨r.json.text.bytes, r.json.text, members, ?_, ?_, ?_, ?_, hc⟩
  · exact Text.bytes_append _ _
  · exact Text.not_mem_bytes hr.not_mem_text
  · exact Text.ofBytes?_bytes _
  · rw [read?_text hr, hm]

end Response

end TemplateServer
