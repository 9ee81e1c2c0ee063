import Mathlib
import TemplateServer.Proofs.Session.Framing
import TemplateServer.Proofs.Session.Opening

/-! Which requests without an id are passed over, and which have a response all the same. -/

namespace TemplateServer

open Json

variable {σ : Type} [WordSource σ]

namespace Server

lemma Receives.eq_none_iff {server after : Server σ} {line : Bytes} {response : Option Response}
    (h : Receives server line response after) {r : Request}
    (hr : lineRequest? server.limit line = some r) (hv : r.version = "2.0") (hid : r.id = none) :
    response = none ↔ (server.ready = false ∧ r.method ≠ Method.handshake.name) ∨
      ∀ m : Method, r.method = m.name → m = .handshakeDone := by
  cases h with
  | blank hl | unreadable hl => cases hl.symm.trans hr
  | otherVersion hl hne =>
    cases hl.symm.trans hr
    exact absurd hv hne
  | notReady hl _ hready hm =>
    cases hl.symm.trans hr
    rw [hid]
    exact iff_of_true rfl (Or.inl ⟨hready, hm⟩)
  | answered hl _ ho =>
    cases hl.symm.trans hr
    rw [Request.response_answer_eq_none_iff hid, iff_or_self]
    rintro ⟨hready, hm⟩
    rcases ho with ho | ho
    · rw [hready] at ho
      cases ho
    · exact absurd ho hm

end Server

theorem responses_notification_eq_none_iff (server : Server σ) {ls : List Bytes} {i : Nat}
    {line : Bytes} {r : Request} (hline : ls[i]? = some line)
    (hr : lineRequest? server.limit line = some r) (hv : r.version = "2.0") (hid : r.id = none) :
    ((server.responses ls)[i]? = some none ↔
      (server.ready = false ∧ (∀ earlier ∈ ls.take i, ¬ Opens server.limit earlier) ∧
          r.method ≠ Method.handshake.name) ∨
        ∀ m : Method, r.method = m.name → m = .handshakeDone) ∧
      ∀ response, (server.responses ls)[i]? = some (some response) → response.id = none := by
  have hreceives := (server.after (ls.take i)).receives line
  have hr' : lineRequest? (server.after (ls.take i)).limit line = some r := by
    rwa [Server.limit_after]
  have hready : (server.after (ls.take i)).ready = false ↔
      server.ready = false ∧ ∀ earlier ∈ ls.take i, ¬ Opens server.limit earlier := by
    rw [← Bool.not_eq_true, Server.ready_after, not_or, Bool.not_eq_true]
    simp only [not_exists, not_and]
  rw [Server.getElem?_responses, hline, Option.map_some, Option.some_inj]
  constructor
  · rw [hreceives.eq_none_iff hr' hv hid, hready, and_assoc]
  · intro response hresponse
    rw [(hreceives.sound (Option.some_inj.mp hresponse)).2, hr', ← hid]
    rfl

theorem responses_notification_listing :
    let server : Server Replay := ⟨60, .ofList [], false⟩
    let listing := Text.bytes "[\"2.0\",null,\"tools/list\",null]\n"
    let first := Text.bytes "[\"2.0\",1,\"initialize\",null]\n"
    let ls := [listing, first, listing]
    lineRequest? 60 listing = some ⟨"2.0", none, "tools/list", none⟩ ∧
      (server.responses ls)[0]? = some none ∧ (server.responses ls)[2]? ≠ some none ∧
      ∀ response, (server.responses ls)[2]? = some (some response) → response.id = none := by
  intro server listing first ls
  have hr : lineRequest? 60 listing = some ⟨"2.0", none, "tools/list", none⟩ := by
    rw [lineRequest?_bytes (by decide)]
    cbv
  have ho : lineRequest? 60 first = some ⟨"2.0", some (.number 1), "initialize", none⟩ := by
    rw [lineRequest?_bytes (by decide)]
    cbv
  have h0 : ls[0]? = some listing := rfl
  have h2 : ls[2]? = some listing := rfl
  obtain ⟨hbefore, _⟩ := responses_notification_eq_none_iff server h0 hr rfl rfl
  obtain ⟨hbehind, hid⟩ := responses_notification_eq_none_iff server h2 hr rfl rfl
  have hknown : ¬ ∀ m : Method, ("tools/list" : Text) = m.name → m = .handshakeDone :=
    fun h => absurd (h .listTools rfl) (by decide)
  refine ⟨hr, hbefore.mpr (Or.inl ⟨rfl, fun _ h => absurd h List.not_mem_nil, by decide⟩), ?_, hid⟩
  rw [Ne, hbehind]
  rintro (⟨_, hn, _⟩ | h)
  · exact hn first (by simp [ls]) ⟨_, ho, rfl, rfl⟩
  · exact hknown h

theorem serve_answers_ping_without_id :
    let server : Server Replay := ⟨Config.defaultLimit, .ofList [], false⟩
    let first := Text.bytes "\x7b\"jsonrpc\":\"2.0\",\"id\":1,\"method\":\"initialize\"\x7d\n"
    let ping := Text.bytes "\x7b\"jsonrpc\":\"2.0\",\"method\":\"ping\"\x7d\n"
    lineRequest? Config.defaultLimit ping = some ⟨"2.0", none, "ping", none⟩ ∧
      (server.after [first]).ready = true ∧
      ((server.after [first]).receive ping).response = some (.result none (.obj [])) ∧
      (server.serve (.ofBuffers [first ++ ping]) .unbounded).output.bytes =
        (Response.result (some (.number 1)) introduction).line.bytes ++
          Text.bytes "\x7b\"jsonrpc\":\"2.0\",\"result\":\x7b\x7d\x7d\n" := by
  intro server first ping
  have hp : lineRequest? Config.defaultLimit ping = some ⟨"2.0", none, "ping", none⟩ := by
    rw [lineRequest?_bytes (by decide)]
    cbv
  have hf : lineRequest? Config.defaultLimit first =
      some ⟨"2.0", some (.number 1), "initialize", none⟩ := by
    rw [lineRequest?_bytes (by decide)]
    cbv
  have hopen : server.after [first] = { server with ready := true } := by
    rw [Server.after_cons, Server.after_nil, Server.receive_of_lineRequest? hf]
    rfl
  have hfirst : (server.receive first).response =
      some (.result (some (.number 1)) introduction) := by
    rw [Server.receive_of_lineRequest? hf]
    rfl
  have hping : ((server.after [first]).receive ping).response =
      some (.result none (.obj [])) := by
    rw [hopen, Server.receive_of_lineRequest? hp]
    rfl
  have hl : lines [first ++ ping].flatten = [first, ping] := by decide
  refine ⟨hp, by rw [hopen], hping, ?_⟩
  rw [(server.serve_ofBuffers (Or.inl (by decide))).2, hl, Server.responses, Server.responses, hfirst,
    Server.responses]
  rw [Server.after_cons, Server.after_nil] at hping
  have hline : (Response.result none (.obj [])).line.bytes =
      Text.bytes "\x7b\"jsonrpc\":\"2.0\",\"result\":\x7b\x7d\x7d\n" := by decide
  rw [hping, ← hline]
  exact congrArg _ (List.append_nil _)

end TemplateServer
