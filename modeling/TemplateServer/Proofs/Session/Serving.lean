import TemplateServer.Proofs.Session.Step
import TemplateServer.Proofs.Stream.Reading

/-! Serving an input is going through its lines, one by one. -/

namespace TemplateServer

variable {σ : Type} [WordSource σ]

lemma writeResponse_of_room {o : Output} (h : o.room = none) (response : Option Response) :
    (Server.writeResponse o response).1 = true ∧
      (Server.writeResponse o response).2.room = none ∧
      (Server.writeResponse o response).2.bytes = o.bytes ++ responseBytes response := by
  cases response with
  | none => exact ⟨rfl, h, (List.append_nil _).symm⟩
  | some r =>
    refine ⟨?_, ?_, Output.bytes_write_unbounded h _⟩
    · simp only [Server.writeResponse, Output.write, h]
    · simp only [Server.writeResponse, Output.write, h]

namespace Server

/-- A bounded read can measure the lines against the limit: a count of bytes has 64 bits, and either
the limit leaves room in it or the input does. -/
def Measures (server : Server σ) (b : Bytes) : Prop :=
  server.limit + 1 < UInt64.size ∨ b.length < UInt64.size

omit [WordSource σ] in
lemma Measures.drop {server : Server σ} {b : Bytes} (h : server.Measures b) (n : Nat) :
    server.Measures (b.drop n) := by
  rcases h with h | h
  · exact Or.inl h
  · rw [Measures, List.length_drop]
    omega

def reach (server : Server σ) (b : Bytes) : Nat := min server.readBound (lineLength b)

lemma lineFeed_not_mem_take {b : Bytes} {n : Nat} (h : n < lineLength b) :
    lineFeed ∉ b.take n := by
  intro hm
  have hn : n ≤ (b.takeWhile (· != lineFeed)).length := Nat.lt_succ_iff.mp h
  rw [← List.takeWhile_append_dropWhile (p := (· != lineFeed)) (l := b),
    List.take_append_of_le_length hn] at hm
  have hp := List.mem_takeWhile_imp (List.mem_of_mem_take hm)
  exact absurd rfl (bne_iff_ne.mp hp)

omit [WordSource σ] in
lemma reach_cases (server : Server σ) {b : Bytes} (h : server.Measures b) :
    (b.take (server.reach b) = b.take (lineLength b) ∧
        b.drop (server.reach b) = b.drop (lineLength b)) ∨
      (server.limit < server.reach b ∧ server.reach b < b.length ∧
        server.reach b < lineLength b) := by
  -- the read takes the whole line, or it stops inside of a line that is too long
  by_cases hl : lineLength b ≤ server.readBound
  · rw [reach, Nat.min_eq_right hl]
    exact Or.inl ⟨rfl, rfl⟩
  · by_cases hb : b.length ≤ server.readBound
    · rw [reach, Nat.min_eq_left (Nat.le_of_not_le hl), List.take_of_length_le hb,
        List.drop_of_length_le hb, List.take_of_length_le (by omega),
        List.drop_of_length_le (by omega)]
      exact Or.inl ⟨rfl, rfl⟩
    · have hr : server.readBound = min (server.limit + 1) (UInt64.size - 1) := rfl
      have hlimit : server.readBound = server.limit + 1 := by
        rcases h with h | h <;> omega
      rw [reach, Nat.min_eq_left (Nat.le_of_not_le hl)]
      exact Or.inr ⟨by omega, by omega, by omega⟩

lemma receive_reach (server : Server σ) {b : Bytes} (h : server.Measures b) :
    server.receive (b.take (server.reach b)) = server.receive (b.take (lineLength b)) := by
  rcases reach_cases server h with ⟨ht, _⟩ | ⟨hlimit, hlength, hline⟩
  · rw [ht]
  · rw [receive_of_lt, receive_of_lt]
    · rw [List.length_take]
      omega
    · rw [List.length_take]
      omega

omit [WordSource σ] in
lemma drop_reach_of_finished (server : Server σ) {b : Bytes} (h : server.Measures b)
    (hf : server.isUnfinished (b.take (server.reach b)) = false) :
    b.drop (server.reach b) = b.drop (lineLength b) := by
  rcases reach_cases server h with ⟨_, hd⟩ | ⟨hlimit, hlength, hline⟩
  · exact hd
  · have hlast : (b.take (server.reach b)).getLast? ≠ some lineFeed :=
      fun e => lineFeed_not_mem_take hline (List.mem_of_getLast? e)
    simp only [isUnfinished, Bool.and_eq_false_iff, decide_eq_false_iff_not, bne_eq_false_iff_eq,
      List.length_take] at hf
    rcases hf with hf | hf
    · omega
    · exact absurd hf hlast

omit [WordSource σ] in
lemma drop_reach_of_unfinished (server : Server σ) {b : Bytes} (h : server.Measures b)
    (hu : server.isUnfinished (b.take (server.reach b)) = true) :
    (b.drop (server.reach b)).drop (lineLength (b.drop (server.reach b))) =
      b.drop (lineLength b) := by
  rcases reach_cases server h with ⟨ht, hd⟩ | ⟨_, hlength, hline⟩
  · simp only [ht, isUnfinished, Bool.and_eq_true, bne_iff_ne] at hu
    rcases separator_cases lineFeed b with hn | ⟨body, rest, hn, rfl⟩
    · have hl : b.length ≤ lineLength b := by
        rw [lineLength_of_not_mem hn]
        omega
      rw [hd, List.drop_of_length_le hl, List.drop_nil]
    · rw [lineLength_append_lineFeed hn, List.take_length_add_append] at hu
      simp at hu
  · have hl := lineLength_append (lineFeed_not_mem_take hline) (b.drop (server.reach b))
    rw [List.take_append_drop, List.length_take, Nat.min_eq_left (Nat.le_of_lt hlength)] at hl
    rw [List.drop_drop, ← hl]

lemma serveFrom_nil (server : Server σ) {buffers : List Bytes} (h : buffers.flatten = [])
    (output : Output) (events : List Event) :
    serveFrom server (.ofBuffers buffers) output events =
      ⟨server, output, (.inputClosed :: events).reverse, .closed⟩ := by
  have hbytes := (Input.bytes_cut server.readBound buffers []).1
  simp only [h, List.take_nil, List.append_nil, List.reverse_nil] at hbytes
  rw [serveFrom_eq, Input.read_ofBuffers, hbytes]

lemma serveFrom_turn (server : Server σ) {buffers : List Bytes} (hne : buffers.flatten ≠ [])
    {output : Output} (hroom : output.room = none) (events : List Event) :
    let line := buffers.flatten.take (server.reach buffers.flatten)
    let left := buffers.flatten.drop (server.reach buffers.flatten)
    let step := server.receive line
    ∃ rest, rest.flatten = (if server.isUnfinished line then left.drop (lineLength left) else left) ∧
      serveFrom server (.ofBuffers buffers) output events =
        serveFrom step.written (.ofBuffers rest) (writeResponse output step.response).2
          (step.events.reverseAux events) := by
  intro line left step
  have hbytes : (Input.cut server.readBound buffers []).bytes = line :=
    (Input.bytes_cut server.readBound buffers []).1
  have hrest : (Input.cut server.readBound buffers []).rest.flatten = left :=
    (Input.bytes_cut server.readBound buffers []).2
  obtain ⟨c, tail, hline⟩ : ∃ c tail, line = c :: tail := by
    apply List.exists_cons_of_ne_nil
    have hreach : 0 < server.reach buffers.flatten :=
      Nat.lt_min.mpr ⟨server.readBound_pos, Nat.succ_pos _⟩
    rw [Ne, List.take_eq_nil_iff, not_or]
    exact ⟨hreach.ne', hne⟩
  obtain ⟨hwritten, _⟩ := writeResponse_of_room hroom step.response
  rw [serveFrom_eq, Input.read_ofBuffers, hbytes, hline]
  dsimp only
  rw [← hline]
  generalize writeResponse output step.response = written at hwritten ⊢
  obtain ⟨_, output'⟩ := written
  cases hwritten
  dsimp only
  split
  · rw [Input.discardLine_ofBuffers]
    refine ⟨_, ?_, rfl⟩
    rw [Input.flatten_afterLine?, hrest]
  · exact ⟨_, hrest, rfl⟩

lemma serveFrom_cons (server : Server σ) {buffers : List Bytes} (hne : buffers.flatten ≠ [])
    (h : server.Measures buffers.flatten) {output : Output} (hroom : output.room = none)
    (events : List Event) :
    let step := server.receive (buffers.flatten.take (lineLength buffers.flatten))
    ∃ rest, rest.flatten = buffers.flatten.drop (lineLength buffers.flatten) ∧
      serveFrom server (.ofBuffers buffers) output events =
        serveFrom step.written (.ofBuffers rest) (writeResponse output step.response).2
          (step.events.reverseAux events) := by
  intro step
  obtain ⟨rest, hrest, hserve⟩ := server.serveFrom_turn hne hroom events
  rw [receive_reach server h] at hserve
  refine ⟨rest, ?_, hserve⟩
  rw [hrest]
  split
  · rename_i hu
    exact drop_reach_of_unfinished server h hu
  · rename_i hf
    rw [Bool.not_eq_true] at hf
    exact drop_reach_of_finished server h hf

lemma serveFrom_eq_foldl (server : Server σ) (buffers : List Bytes)
    (h : server.Measures buffers.flatten) (output : Output) (hroom : output.room = none)
    (events : List Event) :
    let session := (lines buffers.flatten).foldl Session.next ⟨server, output.bytes, events.reverse⟩
    let served := serveFrom server (.ofBuffers buffers) output events
    served.server = session.server ∧ served.output.bytes = session.output ∧
      served.events = session.events ++ [.inputClosed] ∧ served.stop = .closed := by
  -- each turn of the loop takes a line off the input, so the induction is on the bytes that are left
  induction hn : buffers.flatten.length using Nat.strongRecOn
    generalizing server buffers output events with
  | ind n ih =>
    by_cases hne : buffers.flatten = []
    · rw [serveFrom_nil server hne, hne]
      simp [lines]
    · obtain ⟨rest, hrest, hserve⟩ := serveFrom_cons server hne h hroom events
      have hlt : rest.flatten.length < n := by
        have hpos : 0 < buffers.flatten.length := List.length_pos_iff.mpr hne
        rw [hrest, List.length_drop, lineLength]
        omega
      have hlimit := limit_written_receive server (buffers.flatten.take (lineLength buffers.flatten))
      rw [lines_eq_cons hne, List.foldl_cons, Session.next, ← hrest]
      generalize server.receive (buffers.flatten.take (lineLength buffers.flatten)) = step at *
      have hm : step.written.Measures rest.flatten := by
        rw [hrest, Measures, hlimit]
        exact h.drop _
      obtain ⟨_, hroom', hbytes⟩ := writeResponse_of_room hroom step.response
      rw [hserve, ← hbytes]
      simpa only [List.reverseAux_eq, List.reverse_append, List.reverse_reverse] using
        ih _ hlt step.written rest hm _ hroom' (step.events.reverseAux events) rfl

lemma serve_ofBuffers (server : Server σ) {buffers : List Bytes}
    (h : server.Measures buffers.flatten) :
    let served := server.serve (.ofBuffers buffers) .unbounded
    served.server = server.after (lines buffers.flatten) ∧
      served.output.bytes = (server.responses (lines buffers.flatten)).flatMap responseBytes := by
  obtain ⟨hs, ho, _⟩ := serveFrom_eq_foldl server buffers h .unbounded rfl []
  exact ⟨hs.trans (Session.server_foldl_next _ _), ho.trans (Session.output_foldl_next _ _)⟩

end Server

theorem serve_eq_foldl_lines (server : Server σ) (buffers : List Bytes)
    (hsize : buffers.flatten.length < UInt64.size) :
    let segments := lines buffers.flatten
    let session := segments.foldl Session.next (.start server)
    let served := server.serve (.ofBuffers buffers) .unbounded
    (IsLines segments ∧ segments.flatten = buffers.flatten) ∧
      (served.server = session.server ∧ served.output.bytes = session.output ∧
        served.events = session.events ++ [.inputClosed] ∧ served.stop = .closed) ∧
      (∀ (t : Session σ) (line : Bytes), t.server.limit < line.length →
        t.next line = ⟨t.server, t.output ++ (Response.error none .parse).line.bytes,
          t.events ++ [.tooLarge t.server.limit]⟩) ∧
      ∀ (t : Session σ) (line : Bytes) (r : Request), lineRequest? t.server.limit line = some r →
        t.next line = ⟨(t.server.handle r).written,
          t.output ++ responseBytes (t.server.handle r).response,
          t.events ++ (t.server.handle r).events⟩ := by
  refine ⟨isLines_lines _, Server.serveFrom_eq_foldl server buffers (Or.inr hsize) .unbounded rfl [], ?_, ?_⟩
  · intro t line hline
    simp only [Session.next, Server.receive_of_lt hline]
    rfl
  · intro t line r hr
    simp only [Session.next, Server.receive_of_lineRequest? hr]

theorem serve_overlong_lines :
    let buffers : List Bytes := [[97, 97, 97, 97, 10, 97, 97], [97, 97, 97, 10, 97, 97, 97, 97, 97]]
    let served := Server.serve ⟨4, Replay.ofList [], false⟩ (.ofBuffers buffers) .unbounded
    buffers.flatten.length < UInt64.size ∧ served.server.ready = false ∧
      served.output.bytes =
        (List.replicate 3 (Response.error none .parse)).flatMap (·.line.bytes) := by
  intro buffers served
  have h : buffers.flatten.length < UInt64.size := by decide
  obtain ⟨_, ⟨hserver, houtput, _⟩, _⟩ :=
    serve_eq_foldl_lines ⟨4, Replay.ofList [], false⟩ buffers h
  exact ⟨h, congrArg Server.ready hserver, houtput⟩

end TemplateServer
