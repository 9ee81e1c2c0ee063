import Mathlib
import TemplateServer.Proofs.Json.OneLine
import TemplateServer.Proofs.Session.Serving
import TemplateServer.Proofs.Text.Trim

namespace TemplateServer

lemma Text.ofBytes?_concat_lineFeed (b : Bytes) :
    ofBytes? (b ++ [lineFeed]) = (ofBytes? b).map (· ++ ['\n']) := by
  cases h : ofBytes? b with
  | some s =>
    rw [Option.map_some, ofBytes?_eq_some_iff, bytes_append, ← eq_bytes_of_ofBytes? h]
    rfl
  | none =>
    rw [Option.map_none, Option.eq_none_iff_forall_ne_some]
    intro t ht
    have hbytes := eq_bytes_of_ofBytes? ht
    cases t using List.reverseRecOn with
    | nil => simp [bytes] at hbytes
    | append_singleton s c =>
      have hc : bytes [c] = String.utf8EncodeChar c := by simp [bytes]
      rw [bytes_append, hc] at hbytes
      by_cases hn : c = '\n'
      · subst hn
        obtain ⟨rfl, _⟩ := List.append_inj' hbytes rfl
        rw [ofBytes?_bytes] at h
        cases h
      · -- the last byte of a character is the line feed of none but itself
        have hlast := congrArg List.getLast? hbytes
        rw [List.getLast?_concat,
          List.getLast?_append_of_ne_nil _ String.utf8EncodeChar_ne_nil] at hlast
        exact not_mem_utf8EncodeChar hn (List.mem_of_getLast? hlast.symm)

variable {σ : Type} [WordSource σ]

namespace Server

lemma receiveText_concat_lineFeed (server : Server σ) (message : Text) :
    server.receiveText (message ++ ['\n']) = server.receiveText message := by
  rw [receiveText, receiveText, Text.trim_concat rfl]

lemma receive_concat_lineFeed {server : Server σ} {line : Bytes} (h : line.length ≠ server.limit) :
    server.receive (line ++ [lineFeed]) = server.receive line := by
  have hlength : (line ++ [lineFeed]).length = line.length + 1 := List.length_append
  rcases lt_or_gt_of_ne h with hlt | hlt
  · rw [receive, receive, if_neg (by omega), if_neg (by omega), Text.ofBytes?_concat_lineFeed]
    cases Text.ofBytes? line with
    | none => rfl
    | some message => exact server.receiveText_concat_lineFeed message
  · rw [receive_of_lt hlt, receive_of_lt (by omega)]

def Unbounded (server : Server σ) : Prop := UInt64.size ≤ server.limit + 1

omit [WordSource σ] in
lemma Unbounded.length_le {server : Server σ} (h : server.Unbounded) (b : Bytes) :
    (b.take (server.reach b)).length ≤ server.limit := by
  have hreach : server.reach b ≤ UInt64.size - 1 :=
    (Nat.min_le_left _ _).trans (Nat.min_le_right _ _)
  rw [Unbounded] at h
  rw [List.length_take]
  omega

omit [WordSource σ] in
lemma Unbounded.isUnfinished {server : Server σ} (h : server.Unbounded) (b : Bytes) :
    server.isUnfinished (b.take (server.reach b)) = false := by
  rw [Server.isUnfinished, decide_eq_false (Nat.not_lt.mpr (h.length_le b)), Bool.false_and]

lemma receive_nil (server : Server σ) : server.receive [] = server.say none [] := by
  have hnil : Text.ofBytes? [] = some [] := Text.ofBytes?_bytes []
  rw [receive, hnil, if_neg (by simp)]
  rfl

lemma Unbounded.serveFrom_concat_lineFeed {server : Server σ} (h : server.Unbounded)
    {buffers buffers' : List Bytes} (hb : buffers'.flatten = buffers.flatten ++ [lineFeed])
    {output : Output} (hroom : output.room = none) (events : List Event) :
    serveFrom server (.ofBuffers buffers') output events =
      serveFrom server (.ofBuffers buffers) output events := by
  induction hn : buffers.flatten.length using Nat.strongRecOn
    generalizing server buffers buffers' output events with
  | ind n ih =>
    have hne' : buffers'.flatten ≠ [] := by simp [hb]
    obtain ⟨rest', hrest', hserve'⟩ := server.serveFrom_turn hne' hroom events
    rw [h.isUnfinished, if_neg Bool.false_ne_true] at hrest'
    have hreach : server.reach buffers'.flatten = server.reach buffers.flatten := by
      rw [reach, reach, hb, lineLength_concat_lineFeed]
    have hpos : 0 < server.reach buffers.flatten :=
      Nat.lt_min.mpr ⟨server.readBound_pos, Nat.succ_pos _⟩
    have hlength := h.length_le buffers'.flatten
    rw [hreach, hb] at hrest' hserve' hlength
    rw [hserve']
    by_cases hle : server.reach buffers.flatten ≤ buffers.flatten.length
    · -- the line feed is still to come
      have hne : buffers.flatten ≠ [] := List.ne_nil_of_length_pos (by omega)
      obtain ⟨rest, hrest, hserve⟩ := server.serveFrom_turn hne hroom events
      rw [h.isUnfinished, if_neg Bool.false_ne_true] at hrest
      rw [List.drop_append_of_le_length hle, ← hrest] at hrest'
      rw [List.take_append_of_le_length hle, hserve]
      have hlt : rest.flatten.length < n := by
        rw [hrest, List.length_drop]
        omega
      have hwritten := limit_written_receive server
        (buffers.flatten.take (server.reach buffers.flatten))
      obtain ⟨_, hroom', _⟩ := writeResponse_of_room hroom
        (server.receive (buffers.flatten.take (server.reach buffers.flatten))).response
      exact ih _ hlt (by rwa [Unbounded, hwritten]) hrest' hroom' _ rfl
    · -- the read takes all there is, and the line feed with it
      have hall : (buffers.flatten ++ [lineFeed]).length ≤ server.reach buffers.flatten := by
        rw [List.length_append, List.length_singleton]
        omega
      rw [List.take_of_length_le hall, List.length_append, List.length_singleton] at hlength
      rw [List.drop_of_length_le hall] at hrest'
      rw [List.take_of_length_le hall, receive_concat_lineFeed (by omega), serveFrom_nil _ hrest']
      by_cases hne : buffers.flatten = []
      · rw [serveFrom_nil server hne, hne, receive_nil]
        rfl
      · obtain ⟨rest, hrest, hserve⟩ := server.serveFrom_turn hne hroom events
        rw [h.isUnfinished, if_neg Bool.false_ne_true, List.drop_of_length_le (by omega)] at hrest
        rw [hserve, serveFrom_nil _ hrest, List.take_of_length_le (by omega)]

end Server

lemma Session.next_concat_lineFeed {t : Session σ} {line : Bytes}
    (h : line.length ≠ t.server.limit) : t.next (line ++ [lineFeed]) = t.next line := by
  rw [next, next, Server.receive_concat_lineFeed h]

namespace Server

section

variable (server : Server σ) (hu : server.limit + 1 < UInt64.size) {buffers buffers' : List Bytes}
  {earlier : List Bytes} {last : Bytes} (hl : lines buffers.flatten = earlier ++ [last])
  (hl' : lines buffers'.flatten = earlier ++ [last ++ [lineFeed]])

include hu hl hl'

lemma serve_of_last_ne (hlength : last.length ≠ server.limit) :
    let served := server.serve (.ofBuffers buffers) .unbounded
    let served' := server.serve (.ofBuffers buffers') .unbounded
    served'.server = served.server ∧ served'.output.bytes = served.output.bytes ∧
      served'.events = served.events ∧ served'.stop = served.stop := by
  obtain ⟨hs, ho, he, hstop⟩ :=
    server.serveFrom_eq_foldl buffers (Or.inl hu) .unbounded rfl []
  obtain ⟨hs', ho', he', hstop'⟩ :=
    server.serveFrom_eq_foldl buffers' (Or.inl hu) .unbounded rfl []
  have hnext : (lines buffers'.flatten).foldl Session.next ⟨server, [], []⟩ =
      (lines buffers.flatten).foldl Session.next ⟨server, [], []⟩ := by
    rw [hl, hl', List.foldl_concat, List.foldl_concat]
    apply Session.next_concat_lineFeed
    rw [Session.server_foldl_next, limit_after]
    exact hlength
  have hstart : (⟨server, Output.unbounded.bytes, [].reverse⟩ : Session σ) = ⟨server, [], []⟩ := rfl
  rw [hstart, hnext] at hs' ho' he'
  exact ⟨hs'.trans hs.symm, ho'.trans ho.symm, he'.trans he.symm, hstop'.trans hstop.symm⟩

lemma serve_of_last_eq (hlength : last.length = server.limit) :
    let served := server.serve (.ofBuffers buffers) .unbounded
    let served' := server.serve (.ofBuffers buffers') .unbounded
    let reached := server.after earlier
    let bytes := (server.responses earlier).flatMap responseBytes
    (served.server = (reached.receive last).written ∧
        served.output.bytes = bytes ++ responseBytes (reached.receive last).response) ∧
      served'.server = reached ∧
        served'.output.bytes = bytes ++ (Response.error none .parse).line.bytes := by
  intro served served' reached bytes
  have hmeasures : server.Measures buffers.flatten := Or.inl hu
  have hmeasures' : server.Measures buffers'.flatten := Or.inl hu
  obtain ⟨hs, ho⟩ := server.serve_ofBuffers hmeasures
  obtain ⟨hs', ho'⟩ := server.serve_ofBuffers hmeasures'
  have hlong : reached.limit < (last ++ [lineFeed]).length := by
    rw [server.limit_after earlier, List.length_append, List.length_singleton]
    omega
  rw [hl, after_append] at hs
  rw [hl, responses_append, List.flatMap_append] at ho
  rw [hl', after_append, after_cons, receive_of_lt hlong] at hs'
  rw [hl', responses_append, List.flatMap_append, responses, receive_of_lt hlong] at ho'
  refine ⟨⟨hs, ?_⟩, hs', ?_⟩
  · rw [ho]
    simp [responses, bytes, reached]
  · rw [ho']
    simp [responses, bytes, refuse, say, responseBytes]

end

end Server

/-- A line feed at the end makes no difference to how an input is served, unless the last line is
just as long as the limit: the line feed makes it too long, and it is refused whatever it was
answered without. No line is too long for a limit that no count of bytes goes beyond. -/
theorem serve_concat_lineFeed (server : Server σ) {buffers buffers' : List Bytes}
    (hne : buffers.flatten ≠ []) (hend : buffers.flatten.getLast? ≠ some lineFeed)
    (hb : buffers'.flatten = buffers.flatten ++ [lineFeed]) :
    let served := server.serve (.ofBuffers buffers) .unbounded
    let served' := server.serve (.ofBuffers buffers') .unbounded
    ∃ earlier last, lines buffers.flatten = earlier ++ [last] ∧
      ((server.limit + 1 < UInt64.size → last.length ≠ server.limit) →
        served'.server = served.server ∧ served'.output.bytes = served.output.bytes ∧
          served'.events = served.events ∧ served'.stop = served.stop) ∧
      (server.limit + 1 < UInt64.size → last.length = server.limit →
        let reached := server.after earlier
        let bytes := (server.responses earlier).flatMap responseBytes
        (served.server = (reached.receive last).written ∧
            served.output.bytes = bytes ++ responseBytes (reached.receive last).response) ∧
          served'.server = reached ∧
            served'.output.bytes = bytes ++ (Response.error none .parse).line.bytes) := by
  intro served served'
  obtain ⟨earlier, last, hl, hl'⟩ := lines_concat_lineFeed hne hend
  rw [← hb] at hl'
  refine ⟨earlier, last, hl, fun hlength => ?_, fun hu => server.serve_of_last_eq hu hl hl'⟩
  by_cases hu : server.limit + 1 < UInt64.size
  · exact server.serve_of_last_ne hu hl hl' (hlength hu)
  · have hunbounded : server.Unbounded := Nat.not_lt.mp hu
    have hsame : served' = served := hunbounded.serveFrom_concat_lineFeed hb rfl []
    rw [hsame]
    exact ⟨rfl, rfl, rfl, rfl⟩

theorem serve_concat_lineFeed_ping :
    let ping := Text.bytes "\x7b\"jsonrpc\":\"2.0\",\"id\":1,\"method\":\"ping\"\x7d"
    let buffers := [[lineFeed] ++ ping]
    let roomy : Server Replay := ⟨41, .ofList [], false⟩
    let tight : Server Replay := ⟨40, .ofList [], false⟩
    buffers.flatten ≠ [] ∧ buffers.flatten.getLast? ≠ some lineFeed ∧
      ([[lineFeed], ping ++ [lineFeed]] : List Bytes).flatten = buffers.flatten ++ [lineFeed] ∧
      (roomy.serve (.ofBuffers [[lineFeed], ping ++ [lineFeed]]) .unbounded).output.bytes =
        (roomy.serve (.ofBuffers buffers) .unbounded).output.bytes ∧
      (tight.serve (.ofBuffers [[lineFeed], ping ++ [lineFeed]]) .unbounded).output.bytes =
        (Response.error none .parse).line.bytes := by
  intro ping buffers roomy tight
  have hne : buffers.flatten ≠ [] := by decide
  have hend : buffers.flatten.getLast? ≠ some lineFeed := by decide
  have hb : ([[lineFeed], ping ++ [lineFeed]] : List Bytes).flatten =
      buffers.flatten ++ [lineFeed] := by decide
  have hlines : lines buffers.flatten = [[lineFeed]] ++ [ping] := by decide
  obtain ⟨earlier, last, hl, hroomy, _⟩ := serve_concat_lineFeed roomy hne hend hb
  obtain ⟨earlier', last', hl', _, htight⟩ := serve_concat_lineFeed tight hne hend hb
  obtain ⟨_, hlast⟩ := List.append_inj' (hlines.symm.trans hl) rfl
  obtain ⟨hearlier', hlast'⟩ := List.append_inj' (hlines.symm.trans hl') rfl
  cases hlast
  cases hlast'
  cases hearlier'
  obtain ⟨_, hsame, _⟩ := hroomy (fun _ => by decide)
  obtain ⟨_, _, hrefused⟩ := htight (by decide) (by decide)
  refine ⟨hne, hend, hb, hsame, hrefused.trans ?_⟩
  have hblank : tight.receive ([] ++ [lineFeed]) = tight.say none [] :=
    (Server.receive_concat_lineFeed (by decide)).trans tight.receive_nil
  rw [Server.responses, ← List.nil_append [lineFeed], hblank]
  rfl

theorem serve_line_as_long_as_limit :
    let server : Server Replay := ⟨40, .ofList [], false⟩
    let ping := Text.bytes "\x7b\"jsonrpc\":\"2.0\",\"id\":1,\"method\":\"ping\"\x7d"
    ping ≠ [] ∧ ping.getLast? ≠ some lineFeed ∧
      (server.serve (.ofBuffers [ping]) .unbounded).output.bytes =
        (Response.error (some (.number 1)) .notReady).line.bytes ∧
      (server.serve (.ofBuffers [ping ++ [lineFeed]]) .unbounded).output.bytes =
        (Response.error none .parse).line.bytes ∧
      (server.serve (.ofBuffers [ping]) .unbounded).output.bytes ≠
        (server.serve (.ofBuffers [ping ++ [lineFeed]]) .unbounded).output.bytes := by
  intro server ping
  have hp : lineRequest? 40 ping = some ⟨"2.0", some (.number 1), "ping", none⟩ := by
    rw [lineRequest?_bytes (by decide)]
    cbv
  have hl : lines [ping].flatten = [ping] := by decide
  have hl' : lines [ping ++ [lineFeed]].flatten = [ping ++ [lineFeed]] := by decide
  have ho : (server.serve (.ofBuffers [ping]) .unbounded).output.bytes =
      (Response.error (some (.number 1)) .notReady).line.bytes := by
    rw [(server.serve_ofBuffers (Or.inl (by decide))).2, hl, Server.responses,
      Server.receive_of_lineRequest? hp]
    exact List.append_nil _
  have ho' : (server.serve (.ofBuffers [ping ++ [lineFeed]]) .unbounded).output.bytes =
      (Response.error none .parse).line.bytes := by
    rw [(server.serve_ofBuffers (Or.inl (by decide))).2, hl', Server.responses,
      Server.receive_of_lt (by decide)]
    exact List.append_nil _
  refine ⟨by decide, by decide, ho, ho', ?_⟩
  rw [ho, ho']
  decide

end TemplateServer
