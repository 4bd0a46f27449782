import PageWalk.Word

/-!
# The 64-bit Mersenne twister

A generator of 64-bit words with a state of 312 words: a linear recurrence over
the state words, whose outputs are tempered by shifts and masks.
-/

namespace PageWalk.Replacement

/-- The state words and the position of the next output among them. -/
structure Twister where
  state : Array Word
  position : Nat
deriving DecidableEq, Repr

namespace Twister

def size : Nat := 312

/-- The distance of the words that the recurrence combines. -/
def offset : Nat := 156

/-- The seed of a generator that was given none. -/
def defaultSeed : Word := 5489

/-- The next state word of the initial state. -/
def seedStep (previous : Word) (index : Nat) : Word :=
  (6364136223846793005 : Word) * (previous ^^^ (previous >>> 62)) + UInt64.ofNat index

/-- A generator started from a seed. All state words count as used. -/
def ofSeed (seed : Word) : Twister where
  state := (List.range (size - 1)).foldl
    (fun state index => state.push (seedStep (state.getD index 0) (index + 1))) #[seed]
  position := size

/-- Renews the state word at an index. -/
def renewAt (state : Array Word) (index : Nat) : Array Word :=
  let upper := state.getD index 0 &&& 0xffffffff80000000
  let lower := state.getD ((index + 1) % size) 0 &&& 0x7fffffff
  let joined := upper ||| lower
  let twisted := (joined >>> 1) ^^^ (if joined &&& 1 == 1 then 0xb5026f5aa96619e9 else 0)
  state.setIfInBounds index (state.getD ((index + offset) % size) 0 ^^^ twisted)

def renew (state : Array Word) : Array Word :=
  (List.range size).foldl renewAt state

/-- Tempers a state word into an output. -/
def temper (word : Word) : Word :=
  let word := word ^^^ ((word >>> 29) &&& 0x5555555555555555)
  let word := word ^^^ ((word <<< 17) &&& 0x71d67fffeda60000)
  let word := word ^^^ ((word <<< 37) &&& 0xfff7eee000000000)
  word ^^^ (word >>> 43)

def next (twister : Twister) : Word × Twister :=
  if twister.position < size then
    (temper (twister.state.getD twister.position 0),
      { twister with position := twister.position + 1 })
  else
    let state := renew twister.state
    (temper (state.getD 0 0), { state := state, position := 1 })

end Twister

/-! ## Bounded draws -/

/-- How often a draw is repeated before its word is taken as it is. A repetition
is less likely than one in `2 ^ 32`, so the bound is never met. -/
def redrawLimit : Nat := 1000

/-- Draws again while the low half of the product lies below the threshold. -/
def redraw (range threshold : Nat) : (fuel : Nat) → Word → Twister → Nat × Twister
  | 0, word, twister => (word.toNat * range / UInt64.size, twister)
  | fuel + 1, word, twister =>
      let product := word.toNat * range
      if product % UInt64.size < threshold then
        let (word, twister) := twister.next
        redraw range threshold fuel word twister
      else
        (product / UInt64.size, twister)

/-- A draw below `range` without bias: the high half of the product of a random
word and the range. Words whose low half is smaller than the remainder of `2 ^ 64`
by the range would favour some results, and are drawn again. -/
def drawBelow (range : Nat) (twister : Twister) : Nat × Twister :=
  let (word, twister) := twister.next
  if word.toNat * range % UInt64.size < range then
    redraw range ((UInt64.size - range) % range) redrawLimit word twister
  else
    (word.toNat * range / UInt64.size, twister)

end PageWalk.Replacement
