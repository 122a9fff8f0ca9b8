import PaymentChannel.Hash.Block

/-! The digest RIPEMD-160: two lines of eighty steps over the same sixteen words, each with its own
order of words, rotations and mixing functions, joined at the end of every block. -/
namespace PaymentChannel.Hash.Ripemd160

structure State where
  a : UInt32
  b : UInt32
  c : UInt32
  d : UInt32
  e : UInt32

def initial : State := ⟨0x67452301, 0xefcdab89, 0x98badcfe, 0x10325476, 0xc3d2e1f0⟩

/-- The mixing function of the `n`-th sixteen steps of the left line; the right line takes them
from the last to the first. -/
def mix (n : Nat) (x y z : UInt32) : UInt32 :=
  match n with
  | 0 => x ^^^ y ^^^ z
  | 1 => (x &&& y) ||| (~~~x &&& z)
  | 2 => (x ||| ~~~y) ^^^ z
  | 3 => (x &&& z) ||| (y &&& ~~~z)
  | _ => x ^^^ (y ||| ~~~z)

/-- Sixteen steps: their mixing function, their constant, and for each the word and rotation. -/
structure Round where
  mixing : Nat
  constant : UInt32
  steps : List (Nat × UInt32)

def leftLine : List Round := [
  ⟨0, 0x00000000, [(0, 11), (1, 14), (2, 15), (3, 12), (4, 5), (5, 8), (6, 7), (7, 9),
    (8, 11), (9, 13), (10, 14), (11, 15), (12, 6), (13, 7), (14, 9), (15, 8)]⟩,
  ⟨1, 0x5a827999, [(7, 7), (4, 6), (13, 8), (1, 13), (10, 11), (6, 9), (15, 7), (3, 15),
    (12, 7), (0, 12), (9, 15), (5, 9), (2, 11), (14, 7), (11, 13), (8, 12)]⟩,
  ⟨2, 0x6ed9eba1, [(3, 11), (10, 13), (14, 6), (4, 7), (9, 14), (15, 9), (8, 13), (1, 15),
    (2, 14), (7, 8), (0, 13), (6, 6), (13, 5), (11, 12), (5, 7), (12, 5)]⟩,
  ⟨3, 0x8f1bbcdc, [(1, 11), (9, 12), (11, 14), (10, 15), (0, 14), (8, 15), (12, 9), (4, 8),
    (13, 9), (3, 14), (7, 5), (15, 6), (14, 8), (5, 6), (6, 5), (2, 12)]⟩,
  ⟨4, 0xa953fd4e, [(4, 9), (0, 15), (5, 5), (9, 11), (7, 6), (12, 8), (2, 13), (10, 12),
    (14, 5), (1, 12), (3, 13), (8, 14), (11, 11), (6, 8), (15, 5), (13, 6)]⟩]

def rightLine : List Round := [
  ⟨4, 0x50a28be6, [(5, 8), (14, 9), (7, 9), (0, 11), (9, 13), (2, 15), (11, 15), (4, 5),
    (13, 7), (6, 7), (15, 8), (8, 11), (1, 14), (10, 14), (3, 12), (12, 6)]⟩,
  ⟨3, 0x5c4dd124, [(6, 9), (11, 13), (3, 15), (7, 7), (0, 12), (13, 8), (5, 9), (10, 11),
    (14, 7), (15, 7), (8, 12), (12, 7), (4, 6), (9, 15), (1, 13), (2, 11)]⟩,
  ⟨2, 0x6d703ef3, [(15, 9), (5, 7), (1, 15), (3, 11), (7, 8), (14, 6), (6, 6), (9, 14),
    (11, 12), (8, 13), (12, 5), (2, 14), (10, 13), (0, 13), (4, 7), (13, 5)]⟩,
  ⟨1, 0x7a6d76e9, [(8, 15), (6, 5), (4, 8), (1, 11), (3, 14), (11, 14), (15, 6), (0, 14),
    (5, 6), (12, 9), (2, 12), (13, 9), (9, 12), (7, 5), (10, 15), (14, 8)]⟩,
  ⟨0, 0x00000000, [(12, 8), (15, 5), (10, 12), (4, 9), (1, 12), (5, 5), (8, 14), (7, 6),
    (6, 8), (2, 13), (13, 6), (14, 5), (0, 15), (3, 13), (9, 11), (11, 11)]⟩]

def step (words : List UInt32) (r : Round) (s : State) (use : Nat × UInt32) : State :=
  let sum := s.a + mix r.mixing s.b s.c s.d + words.getD use.1 0 + r.constant
  ⟨s.e, rotateLeft sum use.2 + s.e, s.b, rotateLeft s.c 10, s.d⟩

def line (words : List UInt32) (rounds : List Round) (s : State) : State :=
  rounds.foldl (fun s r => r.steps.foldl (step words r) s) s

def compress (s : State) (block : Bytes) : State :=
  let words := wordsLE block
  let left := line words leftLine s
  let right := line words rightLine s
  ⟨s.b + left.c + right.d, s.c + left.d + right.e, s.d + left.e + right.a,
    s.e + left.a + right.b, s.a + left.b + right.c⟩

def State.bytes (s : State) : Bytes :=
  wordBytesLE s.a ++ wordBytesLE s.b ++ wordBytesLE s.c ++ wordBytesLE s.d ++ wordBytesLE s.e

end Ripemd160

def ripemd160 (message : Bytes) : Bytes :=
  ((paddedBlocks (Bytes.ofNatLE 8 (8 * message.length)) message).foldl
    Ripemd160.compress Ripemd160.initial).bytes

@[simp] theorem length_ripemd160 (message : Bytes) : (ripemd160 message).length = 20 := rfl

end PaymentChannel.Hash
