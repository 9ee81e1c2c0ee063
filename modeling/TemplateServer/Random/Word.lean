import TemplateServer.Text.Basic

namespace TemplateServer

class WordSource (σ : Type) where
  next : σ → UInt32 × σ

namespace WordSource

variable {σ : Type} [WordSource σ]

/-- The word times `n` has the position above its low 32 bits; when those bits are so high that a
further digit could carry, a second word decides. -/
def index (n : Nat) (s : σ) : Nat × σ :=
  let (w, s) := next s
  let i := w.toNat * n / UInt32.size
  let low := w.toNat * n % UInt32.size
  if UInt32.size - n < low then
    let (v, s) := next s
    (if UInt32.size ≤ low + v.toNat * n / UInt32.size then i + 1 else i, s)
  else (i, s)

def choose (options : List Text) (s : σ) : Text × σ :=
  if options.isEmpty then ([], s)
  else
    let (i, s) := index options.length s
    (options.getD i [], s)

end WordSource

structure Replay where
  words : List UInt32
  left : List UInt32
  used : Nat

namespace Replay

def ofList (words : List UInt32) : Replay := ⟨words, words, 0⟩

def next (r : Replay) : UInt32 × Replay :=
  match r.left, r.words with
  | w :: left, _ => (w, { r with left := left, used := r.used + 1 })
  | [], w :: left => (w, { r with left := left, used := r.used + 1 })
  | [], [] => (0, { r with used := r.used + 1 })

instance : WordSource Replay := ⟨next⟩

end Replay

end TemplateServer
