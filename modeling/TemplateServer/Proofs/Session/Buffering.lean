import TemplateServer.Proofs.Session.Basic
import TemplateServer.Proofs.Stream.Reading

/-! However an input is cut into buffers, it is served in the same way. -/

namespace TemplateServer

variable {σ : Type} [WordSource σ]

namespace Server

lemma serveFrom_eq_of_sameBytes (server : Server σ) {i j : Input} (h : i.SameBytes j)
    (output : Output) (events : List Event) :
    serveFrom server i output events = serveFrom server j output events := by
  induction hn : i.size using Nat.strongRecOn generalizing server i j output events with
  | ind n ih =>
    have hread := h.read server.readBound_pos
    rw [serveFrom_eq server i, serveFrom_eq server j]
    generalize hi : i.read server.readBound = read at hread ⊢
    generalize j.read server.readBound = read' at hread ⊢
    cases hread with
    | error reason => rfl
    | @ok a b hab =>
      obtain ⟨line, rest⟩ := a
      obtain ⟨_, rest'⟩ := b
      obtain ⟨rfl, hrest⟩ := hab
      cases line with
      | nil => rfl
      | cons c line =>
        have hsize : rest.size < n := by
          have hs := Input.size_read hi
          rw [List.length_cons] at hs
          omega
        dsimp only
        split
        · rfl
        · split
          · have hdiscard := hrest.discardLine
            generalize hd : rest.discardLine = left at hdiscard ⊢
            generalize rest'.discardLine = left' at hdiscard ⊢
            cases hdiscard with
            | error reason => rfl
            | ok hleft =>
              exact ih _ ((Input.size_discardLine hd).trans_lt hsize) _ hleft _ _ rfl
          · exact ih _ hsize _ hrest _ _ rfl

end Server

theorem serve_eq_of_flatten_eq (server : Server σ) {buffers buffers' : List Bytes}
    (h : buffers.flatten = buffers'.flatten) :
    (∀ (ending : Ending) (output : Output),
      server.serve ⟨buffers, ending⟩ output = server.serve ⟨buffers', ending⟩ output) ∧
      ∃ rest, (Input.ofBuffers buffers).discardLine = .ok (.ofBuffers rest) ∧
        (∀ line after, lineFeed ∉ line → buffers.flatten = line ++ lineFeed :: after →
          rest.flatten = after) ∧
        (lineFeed ∉ buffers.flatten → rest.flatten = []) := by
  constructor
  · intro ending output
    have hsame : Input.SameBytes ⟨buffers, ending⟩ ⟨buffers', ending⟩ := ⟨h, rfl⟩
    exact server.serveFrom_eq_of_sameBytes hsame output []
  · refine ⟨_, Input.discardLine_ofBuffers buffers, ?_, ?_⟩
    · intro line after hline hb
      rw [Input.flatten_afterLine?, hb, lineLength_append_lineFeed hline,
        List.drop_length_add_append]
      rfl
    · intro hb
      rw [Input.flatten_afterLine?, lineLength_of_not_mem hb]
      exact List.drop_of_length_le (Nat.le_succ _)

theorem serve_overlong_bytewise :
    let bytes : Bytes := [97, 97, 97, 97, 97, 97, 10, 97, 10]
    let server : Server Replay := ⟨4, .ofList [], true⟩
    let single := bytes.map ([·])
    let served := server.serve (.ofBuffers [[97, 97, 97, 97, 97], [97, 10, 97, 10]]) .unbounded
    single.flatten = [[97, 97, 97, 97, 97], [97, 10, 97, 10]].flatten ∧
      (server.serve (.ofBuffers single) .unbounded).output.bytes = served.output.bytes ∧
      (server.serve (.ofBuffers single) .unbounded).server = served.server ∧
      ∃ rest, (Input.ofBuffers single).discardLine = .ok (.ofBuffers rest) ∧
        rest.flatten = [97, 10] := by
  intro bytes server single served
  have h : single.flatten = [[97, 97, 97, 97, 97], [97, 10, 97, 10]].flatten := by decide
  obtain ⟨hserve, rest, hrest, hafter, _⟩ := serve_eq_of_flatten_eq server h
  have hsame := hserve .closed .unbounded
  exact ⟨h, congrArg (·.output.bytes) hsame, congrArg (·.server) hsame, rest, hrest,
    hafter [97, 97, 97, 97, 97, 97] [97, 10] (by decide) (by decide)⟩

end TemplateServer
