/-
# BLAKE3 of a short message

The 32-byte BLAKE3 digest of a message of at most 64 bytes, which is one block of one chunk:
a single compression of the initial chaining value with the flags for the start of a chunk,
its end and the root.
-/

namespace Rollout
namespace Blake3

-- Powers are those of core, whatever is imported beside this module.
attribute [local instance (high)] instPowNat

/-- The state of a compression: sixteen words. -/
abbrev Words := Vector UInt32 16

def rotateRight (x n : UInt32) : UInt32 := (x >>> n) ||| (x <<< (32 - n))

/-- Mixes two message words into four words of the state. -/
def mix (v : Words) (a b c d : Fin 16) (x y : UInt32) : Words :=
  let v := v.set a (v[a] + v[b] + x)
  let v := v.set d (rotateRight (v[d] ^^^ v[a]) 16)
  let v := v.set c (v[c] + v[d])
  let v := v.set b (rotateRight (v[b] ^^^ v[c]) 12)
  let v := v.set a (v[a] + v[b] + y)
  let v := v.set d (rotateRight (v[d] ^^^ v[a]) 8)
  let v := v.set c (v[c] + v[d])
  v.set b (rotateRight (v[b] ^^^ v[c]) 7)

/-- One round: the columns, then the diagonals. -/
def round (v m : Words) : Words :=
  let v := mix v 0 4 8 12 m[0] m[1]
  let v := mix v 1 5 9 13 m[2] m[3]
  let v := mix v 2 6 10 14 m[4] m[5]
  let v := mix v 3 7 11 15 m[6] m[7]
  let v := mix v 0 5 10 15 m[8] m[9]
  let v := mix v 1 6 11 12 m[10] m[11]
  let v := mix v 2 7 8 13 m[12] m[13]
  mix v 3 4 9 14 m[14] m[15]

/-- Where each message word of the next round comes from. -/
def schedule : Vector (Fin 16) 16 := #v[2, 6, 3, 10, 7, 0, 4, 13, 1, 11, 12, 5, 9, 14, 15, 8]

def permute (m : Words) : Words := schedule.map fun i => m[i]

/-- A number of rounds, the message permuted between them. -/
def rounds : Nat → Words → Words → Words
  | 0, v, _ => v
  | n + 1, v, m => rounds n (round v m) (permute m)

/-- The initial chaining value. -/
def initial : Vector UInt32 8 :=
  #v[0x6A09E667, 0xBB67AE85, 0x3C6EF372, 0xA54FF53A,
    0x510E527F, 0x9B05688C, 0x1F83D9AB, 0x5BE0CD19]

/-- The word whose bytes, least significant first, start at a position of a message. -/
def wordAt (message : List Nat) (position : Nat) : UInt32 :=
  UInt32.ofNat ((List.range 4).foldr (fun i n => n * 256 + message.getD (position + i) 0) 0)

/-- The bytes of a word, least significant first. -/
def wordBytes (w : UInt32) : List Nat :=
  (List.range 4).map fun i => w.toNat / 256 ^ i % 256

/-- The digest of a message of at most 64 bytes. -/
def digest (message : List Nat) : List Nat :=
  let m : Words := Vector.ofFn fun i => wordAt message (4 * i.val)
  let start : Words :=
    #v[initial[0], initial[1], initial[2], initial[3],
      initial[4], initial[5], initial[6], initial[7],
      initial[0], initial[1], initial[2], initial[3],
      0, 0, UInt32.ofNat message.length, 11]
  let v := rounds 7 start m
  (List.finRange 8).flatMap fun i => wordBytes (v[i.val] ^^^ v[i.val + 8])

end Blake3
end Rollout
