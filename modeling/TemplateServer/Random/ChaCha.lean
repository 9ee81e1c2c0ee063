import TemplateServer.Random.Word

/-! The ChaCha stream of twelve rounds, keyed by a 64-bit seed. -/

namespace TemplateServer.ChaCha

structure Row where
  a : UInt32
  b : UInt32
  c : UInt32
  d : UInt32
  deriving DecidableEq, Repr

namespace Row

def map (f : UInt32 → UInt32) (r : Row) : Row := ⟨f r.a, f r.b, f r.c, f r.d⟩

def zip (f : UInt32 → UInt32 → UInt32) (r s : Row) : Row :=
  ⟨f r.a s.a, f r.b s.b, f r.c s.c, f r.d s.d⟩

def toList (r : Row) : List UInt32 := [r.a, r.b, r.c, r.d]

def turn (r : Row) : Row := ⟨r.b, r.c, r.d, r.a⟩

end Row

structure Block where
  w : Row
  x : Row
  y : Row
  z : Row
  deriving DecidableEq, Repr

def rotl (n : UInt32) (v : UInt32) : UInt32 := (v <<< n) ||| (v >>> (32 - n))

namespace Block

def columns (b : Block) : Block :=
  let w := b.w.zip (· + ·) b.x
  let z := (b.z.zip (· ^^^ ·) w).map (rotl 16)
  let y := b.y.zip (· + ·) z
  let x := (b.x.zip (· ^^^ ·) y).map (rotl 12)
  let w := w.zip (· + ·) x
  let z := (z.zip (· ^^^ ·) w).map (rotl 8)
  let y := y.zip (· + ·) z
  let x := (x.zip (· ^^^ ·) y).map (rotl 7)
  ⟨w, x, y, z⟩

def slant (b : Block) : Block := ⟨b.w, b.x.turn, b.y.turn.turn, b.z.turn.turn.turn⟩

def unslant (b : Block) : Block := ⟨b.w, b.x.turn.turn.turn, b.y.turn.turn, b.z.turn⟩

def doubleRound (b : Block) : Block := b.columns.slant.columns.unslant

def sum (b c : Block) : Block :=
  ⟨b.w.zip (· + ·) c.w, b.x.zip (· + ·) c.x, b.y.zip (· + ·) c.y, b.z.zip (· + ·) c.z⟩

def tail (b : Block) : List UInt32 :=
  [b.w.b, b.w.c, b.w.d] ++ b.x.toList ++ b.y.toList ++ b.z.toList

end Block

def seedBlock (key : Row × Row) (counter : UInt64) : Block where
  w := ⟨0x61707865, 0x3320646e, 0x79622d32, 0x6b206574⟩
  x := key.1
  y := key.2
  z := ⟨counter.toUInt32, (counter >>> 32).toUInt32, 0, 0⟩

def block (key : Row × Row) (counter : UInt64) : Block :=
  let b := seedBlock key counter
  b.doubleRound.doubleRound.doubleRound.doubleRound.doubleRound.doubleRound.sum b

def spread (state : UInt64) : UInt64 := state * 0x5851f42d4c957f2d + 0xa17654e46fbe17f3

def keyWord (state : UInt64) : UInt32 :=
  let v := (((state >>> 18) ^^^ state) >>> 27).toUInt32
  let n := (state >>> 59).toUInt32
  (v >>> n) ||| (v <<< ((32 - n) % 32))

def keyRow (state : UInt64) : Row × UInt64 :=
  let s := spread state
  let t := spread s
  let u := spread t
  let v := spread u
  (⟨keyWord s, keyWord t, keyWord u, keyWord v⟩, v)

end ChaCha

structure ChaCha where
  key : ChaCha.Row × ChaCha.Row
  counter : UInt64
  pending : List UInt32
  deriving DecidableEq, Repr

namespace ChaCha

def ofSeed (seed : UInt64) : ChaCha :=
  let (first, state) := keyRow seed
  ⟨(first, (keyRow state).1), 0, []⟩

def next (g : ChaCha) : UInt32 × ChaCha :=
  match g.pending with
  | w :: rest => (w, { g with pending := rest })
  | [] =>
    let b := block g.key g.counter
    (b.w.a, { g with counter := g.counter + 1, pending := b.tail })

instance : WordSource ChaCha := ⟨next⟩

end ChaCha

end TemplateServer
