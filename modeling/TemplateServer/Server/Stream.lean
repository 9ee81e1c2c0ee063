import TemplateServer.Text.Utf8

/-! Input that arrives in buffers and is read by lines, and output that may run full. -/

namespace TemplateServer

def lineFeed : UInt8 := 10

inductive Ending where
  | closed
  | failed (reason : Text)
  deriving DecidableEq, Repr

structure Input where
  buffers : List Bytes
  ending : Ending
  deriving DecidableEq, Repr

namespace Input

def size (i : Input) : Nat := i.buffers.flatten.length

/-- The bytes of a bounded read, and what is left. It is `complete` if it needs no more input: a
line feed ended it, or the bound. -/
structure Cut where
  bytes : Bytes
  rest : List Bytes
  complete : Bool

/-- Reads up to and with the next line feed, but no more than `bound` bytes; those already read
stand last first. -/
def cut (bound : Nat) : List Bytes → Bytes → Cut
  | [], read => ⟨read.reverse, [], false⟩
  | b :: rest, read =>
    let front := b.takeWhile (· != lineFeed)
    if bound ≤ front.length then
      ⟨((front.take bound).reverseAux read).reverse, b.drop bound :: rest, true⟩
    else
      match b.dropWhile (· != lineFeed) with
      | [] => cut (bound - front.length) rest (front.reverseAux read)
      | c :: after => ⟨(c :: front.reverseAux read).reverse, after :: rest, true⟩

def read (i : Input) (bound : Nat) : Except Text (Bytes × Input) :=
  let c := cut bound i.buffers []
  match c.complete, i.ending with
  | false, .failed reason => .error reason
  | _, _ => .ok (c.bytes, { i with buffers := c.rest })

def afterLine? : List Bytes → Option (List Bytes)
  | [] => none
  | b :: rest =>
    match b.dropWhile (· != lineFeed) with
    | [] => afterLine? rest
    | _ :: after => some (after :: rest)

def discardLine (i : Input) : Except Text Input :=
  match afterLine? i.buffers, i.ending with
  | some buffers, _ => .ok { i with buffers := buffers }
  | none, .closed => .ok { i with buffers := [] }
  | none, .failed reason => .error reason

theorem size_cut (bound : Nat) (buffers : List Bytes) (read : Bytes) :
    (cut bound buffers read).bytes.length + (cut bound buffers read).rest.flatten.length =
      read.length + buffers.flatten.length := by
  induction buffers generalizing bound read with
  | nil => simp [cut]
  | cons b rest ih =>
    have hb := congrArg List.length
      (List.takeWhile_append_dropWhile (p := (· != lineFeed)) (l := b))
    rw [List.length_append] at hb
    simp only [cut]
    split
    · simp only [List.reverseAux_eq, List.length_append, List.length_reverse, List.length_take,
        List.flatten_cons, List.length_drop]
      omega
    · split
      · rename_i hd
        rw [ih]
        simp only [hd, List.length_nil] at hb
        simp only [List.reverseAux_eq, List.length_append, List.length_reverse,
          List.flatten_cons]
        omega
      · rename_i hd
        simp only [hd, List.length_cons] at hb
        simp only [List.reverseAux_eq, List.reverse_cons, List.length_append, List.length_reverse,
          List.length_cons, List.length_nil, List.flatten_cons]
        omega

theorem size_read {i i' : Input} {bound : Nat} {b : Bytes} (h : i.read bound = .ok (b, i')) :
    b.length + i'.size = i.size := by
  have hs := size_cut bound i.buffers []
  simp only [read] at h
  split at h
  · cases h
  · cases h
    simpa [size] using hs

theorem size_afterLine? {buffers rest : List Bytes} (h : afterLine? buffers = some rest) :
    rest.flatten.length ≤ buffers.flatten.length := by
  induction buffers with
  | nil => cases h
  | cons b bs ih =>
    simp only [afterLine?] at h
    split at h
    · simp only [List.flatten_cons, List.length_append]
      exact Nat.le_add_left_of_le (ih h)
    · rename_i c after hd
      cases h
      have := (List.dropWhile_sublist (l := b) (· != lineFeed)).length_le
      simp only [hd, List.length_cons] at this
      simp only [List.flatten_cons, List.length_append]
      omega

theorem size_discardLine {i i' : Input} (h : i.discardLine = .ok i') : i'.size ≤ i.size := by
  simp only [discardLine] at h
  split at h
  · rename_i hb
    cases h
    exact size_afterLine? hb
  · cases h
    simp [size]
  · cases h

end Input

structure Output where
  taken : Bytes
  room : Option Nat
  deriving DecidableEq, Repr

namespace Output

def unbounded : Output := ⟨[], none⟩

def ofRoom (room : Option Nat) : Output := ⟨[], room⟩

def bytes (o : Output) : Bytes := o.taken.reverse

def write (o : Output) (b : Bytes) : Bool × Output :=
  match o.room with
  | none => (true, ⟨b.reverseAux o.taken, none⟩)
  | some room => (b.length ≤ room, ⟨(b.take room).reverseAux o.taken, some (room - b.length)⟩)

theorem bytes_write_unbounded {o : Output} (h : o.room = none) (b : Bytes) :
    (o.write b).2.bytes = o.bytes ++ b := by
  simp [write, h, bytes, List.reverseAux_eq]

end Output

end TemplateServer
