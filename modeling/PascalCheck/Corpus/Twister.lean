namespace PascalCheck.Corpus

structure Twister where
  words : Array UInt32
  place : Nat

namespace Twister

def size : Nat := 624

def reach : Nat := 397

def wordAt (words : Array UInt32) (i : Nat) : UInt32 := words.getD i 0

def plain (seed : UInt32) : Array UInt32 :=
  (size - 1).fold (fun i _ (words : Array UInt32) =>
    let before := wordAt words i
    words.push ((1812433253 : UInt32) * (before ^^^ (before >>> 30)) + (i + 1).toUInt32)) #[seed]

-- Stirs one word with the word before it. Past the last word comes the second, and the last one is
-- copied to the first.
def stir (factor : UInt32) (change : UInt32 → Nat → UInt32) (state : Array UInt32 × Nat) : Array UInt32 × Nat :=
  let (words,i) := state
  let before := wordAt words (i - 1)
  let words := words.setIfInBounds i (change (wordAt words i ^^^ ((before ^^^ (before >>> 30)) * factor)) i)
  if i + 1 < size then (words,i + 1) else (words.setIfInBounds 0 (wordAt words (size - 1)),1)

-- A number in words of 32 bits, the least significant first; zero has one word.
def keyOf (n : Nat) : Array UInt32 :=
  if _ : n < 1 <<< 32 then #[n.toUInt32] else #[(n % (1 <<< 32)).toUInt32] ++ keyOf (n >>> 32)
termination_by n

def ofKey (key : Array UInt32) : Twister :=
  let first := (max size key.size).fold (fun k _ state =>
    let j := k % key.size
    stir 1664525 (fun word _ => word + wordAt key j + j.toUInt32) state) (plain 19650218,1)
  let second := (size - 1).fold (fun _ _ state =>
    stir 1566083941 (fun word i => word - i.toUInt32) state) first
  ⟨second.1.setIfInBounds 0 0x80000000,size⟩

def ofSeed (seed : Int) : Twister := ofKey (keyOf seed.natAbs)

-- All words anew: each from the top bit of itself, the other bits of the next word, and the word
-- that stands the reach ahead.
def turned (words : Array UInt32) : Array UInt32 :=
  size.fold (fun i _ (words : Array UInt32) =>
    let mixed := (wordAt words i &&& 0x80000000) ||| (wordAt words ((i + 1) % size) &&& 0x7FFFFFFF)
    let odd : UInt32 := if mixed &&& 1 = 1 then 0x9908B0DF else 0
    words.setIfInBounds i (wordAt words ((i + reach) % size) ^^^ (mixed >>> 1) ^^^ odd)) words

def tempered (word : UInt32) : UInt32 :=
  let word := word ^^^ (word >>> 11)
  let word := word ^^^ ((word <<< 7) &&& 0x9D2C5680)
  let word := word ^^^ ((word <<< 15) &&& 0xEFC60000)
  word ^^^ (word >>> 18)

def next (twister : Twister) : UInt32 × Twister :=
  let twister := if twister.place < size then twister else ⟨turned twister.words,0⟩
  (tempered (wordAt twister.words twister.place),{ twister with place := twister.place + 1 })

def bits (count : Nat) (twister : Twister) : Nat × Twister :=
  let (word,twister) := twister.next
  (word.toNat >>> (32 - count),twister)

def fraction (twister : Twister) : Nat × Twister :=
  let (high,twister) := twister.bits 27
  let (low,twister) := twister.bits 26
  ((high <<< 26) + low,twister)

-- Draws until a number is small enough. So many draws in a row that all fail do not occur; after
-- them the last bound on the number is kept by its remainder.
def belowWithin (bound : Nat) : Nat → Twister → Nat × Twister
  | 0,twister =>
    let (n,twister) := twister.bits (bound.log2 + 1)
    (n % bound,twister)
  | attempts + 1,twister =>
    let (n,twister) := twister.bits (bound.log2 + 1)
    if n < bound then (n,twister) else belowWithin bound attempts twister

def below (bound : Nat) (twister : Twister) : Nat × Twister := belowWithin bound 20000 twister

theorem belowWithin_lt {bound : Nat} (positive : 0 < bound) (attempts : Nat) (twister : Twister) :
    (belowWithin bound attempts twister).1 < bound := by
  induction attempts generalizing twister with
  | zero => exact Nat.mod_lt _ positive
  | succ attempts ih =>
    simp only [belowWithin]
    split
    · assumption
    · exact ih _

theorem bits_lt (count : Nat) (small : count ≤ 32) (twister : Twister) : (twister.bits count).1 < 1 <<< count := by
  have word := (twister.next).1.toNat_lt
  simp only [bits,Nat.shiftRight_eq_div_pow,Nat.one_shiftLeft]
  apply Nat.div_lt_of_lt_mul
  rw [← Nat.pow_add,Nat.sub_add_cancel small]
  exact word

theorem fraction_lt (twister : Twister) : twister.fraction.1 < 1 <<< 53 := by
  have high := bits_lt 27 (by decide) twister
  have low := bits_lt 26 (by decide) (twister.bits 27).2
  simp only [fraction]
  omega

end Twister

end PascalCheck.Corpus
