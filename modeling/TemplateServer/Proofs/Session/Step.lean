import TemplateServer.Proofs.Dispatch.Answer
import TemplateServer.Proofs.Protocol.Request
import TemplateServer.Proofs.Session.Basic

namespace TemplateServer

open Json

def lineRequest? (limit : Nat) (line : Bytes) : Option Request :=
  if limit < line.length then none
  else (Text.ofBytes? line).bind fun message => decodeText? message.trim

def Opens (limit : Nat) (line : Bytes) : Prop :=
  ∃ r, lineRequest? limit line = some r ∧ r.version = "2.0" ∧ r.method = Method.handshake.name

def Draws (limit : Nat) (line : Bytes) : Prop :=
  ∃ r, lineRequest? limit line = some r ∧ r.version = "2.0" ∧ r.Draws

lemma decodeText?_nil {α : Type} [Decodable α] : (decodeText? [] : Option α) = none := by
  have h : Form.read? [] = none := by
    rw [Form.read?, Token.scan, Token.scanFrom]
    rfl
  rw [decodeText?, h, Option.bind_none]

lemma not_opens_of_no_request {limit : Nat} {line : Bytes} (h : lineRequest? limit line = none) :
    ¬ Opens limit line := by
  rintro ⟨r, hr, _⟩
  cases h.symm.trans hr

lemma opens_iff {limit : Nat} {line : Bytes} {r : Request} (h : lineRequest? limit line = some r) :
    Opens limit line ↔ r.version = "2.0" ∧ r.method = Method.handshake.name := by
  rw [Opens, h]
  simp

lemma lineRequest?_bytes {limit : Nat} {s : Text} (h : s.bytes.length ≤ limit) :
    lineRequest? limit s.bytes = decodeText? s.trim := by
  rw [lineRequest?, if_neg (Nat.not_lt.mpr h), Text.ofBytes?_bytes, Option.bind_some]

lemma inRange_of_lineRequest? {limit : Nat} {line : Bytes} {r : Request}
    (h : lineRequest? limit line = some r) : ∀ id ∈ r.id, id.InRange := by
  intro id hid
  rw [lineRequest?] at h
  split at h
  · cases h
  · obtain ⟨message, _, hr⟩ := Option.bind_eq_some_iff.mp h
    exact Request.inRange_of_decodeText? hr hid

variable {σ : Type} [WordSource σ]

namespace Server

lemma receive_of_lt {server : Server σ} {line : Bytes} (h : server.limit < line.length) :
    server.receive line = server.refuse (.tooLarge server.limit) := by
  rw [receive, if_pos h]

inductive Receives (server : Server σ) (line : Bytes) : Option Response → Server σ → Prop
  | blank : lineRequest? server.limit line = none → Receives server line none server
  | unreadable : lineRequest? server.limit line = none →
      Receives server line (some (.error none .parse)) server
  | otherVersion {r : Request} : lineRequest? server.limit line = some r → r.version ≠ "2.0" →
      Receives server line (some (.error r.id .invalidRequest)) server
  | notReady {r : Request} : lineRequest? server.limit line = some r → r.version = "2.0" →
      server.ready = false → r.method ≠ Method.handshake.name →
      Receives server line (r.id.map fun id => .error (some id) .notReady) server
  | answered {r : Request} : lineRequest? server.limit line = some r → r.version = "2.0" →
      (server.ready = true ∨ r.method = Method.handshake.name) →
      Receives server line (r.answer server.source).response
        { server with source := (r.answer server.source).source, ready := true }

lemma receive_of_lineRequest? {server : Server σ} {line : Bytes} {r : Request}
    (h : lineRequest? server.limit line = some r) : server.receive line = server.handle r := by
  rw [lineRequest?] at h
  split at h
  · cases h
  · rename_i hlimit
    obtain ⟨message, hm, hr⟩ := Option.bind_eq_some_iff.mp h
    have hne : message.trim.isEmpty = false := by
      cases ht : message.trim with
      | nil =>
        rw [ht, decodeText?_nil] at hr
        cases hr
      | cons c rest => rfl
    simp only [receive, if_neg hlimit, hm, receiveText, hne, Bool.false_eq_true, if_false, hr]

lemma receives_of_no_request {server : Server σ} {line : Bytes}
    (h : lineRequest? server.limit line = none) :
    Receives server line (server.receive line).response (server.receive line).written := by
  have hline := h
  rw [lineRequest?] at hline
  rw [receive]
  split
  · exact .unreadable h
  · rename_i hlimit
    rw [if_neg hlimit] at hline
    split
    · exact .unreadable h
    · rename_i message hm
      rw [hm, Option.bind_some] at hline
      simp only [receiveText, hline]
      split
      · exact .blank h
      · exact .unreadable h

lemma receives_of_handle {server : Server σ} {line : Bytes} {r : Request}
    (h : lineRequest? server.limit line = some r) :
    Receives server line (server.handle r).response (server.handle r).written := by
  by_cases hv : r.version = "2.0"
  · rw [handle, if_neg (not_not_intro hv)]
    by_cases ho : server.ready = true ∨ r.method = Method.handshake.name
    · have hready : (server.ready || decide (r.method = Method.handshake.name)) = true := by
        simpa using ho
      rw [if_neg (by rcases ho with ho | ho <;> simp [ho])]
      simp only [hready]
      exact .answered h hv ho
    · obtain ⟨hready, hm⟩ := not_or.mp ho
      rw [Bool.not_eq_true] at hready
      rw [if_pos (by simp [hready, hm])]
      have hclosed := Receives.notReady h hv hready hm
      cases hid : r.id with
      | none => rwa [hid] at hclosed
      | some id => rwa [hid] at hclosed
  · rw [handle, if_pos hv]
    exact .otherVersion h hv

lemma receives (server : Server σ) (line : Bytes) :
    Receives server line (server.receive line).response (server.receive line).written := by
  cases h : lineRequest? server.limit line with
  | none => exact receives_of_no_request h
  | some r =>
    rw [receive_of_lineRequest? h]
    exact receives_of_handle h

lemma Receives.limit {server after : Server σ} {line : Bytes} {response : Option Response}
    (h : Receives server line response after) : after.limit = server.limit := by
  cases h <;> rfl

lemma limit_written_receive (server : Server σ) (line : Bytes) :
    (server.receive line).written.limit = server.limit := (server.receives line).limit

lemma limit_after (server : Server σ) (ls : List Bytes) : (server.after ls).limit = server.limit := by
  induction ls generalizing server with
  | nil => rfl
  | cons line rest ih => rw [after_cons, ih, limit_written_receive]

end Server

end TemplateServer
