import ProxyDial.Der

set_option autoImplicit false

/-! The SHA-2 hash functions (FIPS 180-4). They differ in the size of a word, in some rotations and
in the state that they start with. All constants are leading digits of roots of prime numbers. -/

namespace ProxyDial.Crypto
open Text

private def isPrime (n : Nat) : Bool := 2 ≤ n && (List.range n).all fun d => d < 2 || n % d ≠ 0

/-- The first eighty prime numbers. -/
def primes : List Nat := (List.range 410).filter isPrime

/-- The first `bits` binary digits behind the point of a root of a number below 512. -/
def rootDigits (degree bits n : Nat) : Nat :=
  let scaled := n * Nat.pow 2 (degree * bits)
  let root := (List.range (bits + 5)).reverse.foldl
    (fun root index =>
      let greater := root + Nat.pow 2 index
      if Nat.pow greater degree ≤ scaled then greater else root)
    0
  root % Nat.pow 2 bits

/-- Digits of cube roots of eighty primes, as wide as the widest words. -/
def roundDigits : List Nat := primes.map (rootDigits 3 64)

/-- How a word is mixed with rotated copies of itself. -/
structure Mix where
  first : Nat
  second : Nat
  third : Nat
  /-- The third copy is shifted and not rotated. -/
  shifts : Bool

/-- A hash function of the family. -/
structure Sha2 where
  wordBits : Nat
  roundConstants : List Nat
  start : List Nat
  /-- How many bytes of the last state make the hash. -/
  length : Nat
  scheduleEarly : Mix
  scheduleLate : Mix
  stateHigh : Mix
  stateLow : Mix

namespace Sha2

private def narrow (roots : List Nat) (length : Nat) : Sha2 :=
  ⟨32, (roundDigits.take 64).map (· / Nat.pow 2 32), roots, length,
    ⟨7, 18, 3, true⟩, ⟨17, 19, 10, true⟩, ⟨2, 13, 22, false⟩, ⟨6, 11, 25, false⟩⟩

private def wide (roots : List Nat) (length : Nat) : Sha2 :=
  ⟨64, roundDigits, roots, length,
    ⟨1, 8, 7, true⟩, ⟨19, 61, 6, true⟩, ⟨28, 34, 39, false⟩, ⟨14, 18, 41, false⟩⟩

def sha256 : Sha2 := narrow ((primes.take 8).map (rootDigits 2 32)) 32

def sha384 : Sha2 := wide (((primes.drop 8).take 8).map (rootDigits 2 64)) 48

def sha512 : Sha2 := wide ((primes.take 8).map (rootDigits 2 64)) 64

private def modulus (hash : Sha2) : Nat := Nat.pow 2 hash.wordBits

private def rotate (hash : Sha2) (word places : Nat) : Nat :=
  word >>> places ||| (word <<< (hash.wordBits - places)) % hash.modulus

private def mix (hash : Sha2) (mixing : Mix) (word : Nat) : Nat :=
  let last := if mixing.shifts then word >>> mixing.third else hash.rotate word mixing.third
  hash.rotate word mixing.first ^^^ hash.rotate word mixing.second ^^^ last

/-- The word of a schedule that comes sixteen words after the first one. -/
private def nextWord (hash : Sha2) (schedule : List Nat) : Nat :=
  (hash.mix hash.scheduleLate (schedule.getD 14 0) + schedule.getD 9 0 +
    hash.mix hash.scheduleEarly (schedule.getD 1 0) + schedule.getD 0 0) % hash.modulus

/-- The bits of `ifSet` where a selecting bit is set, and else of `ifClear`. -/
private def select (selector ifSet ifClear : Nat) : Nat :=
  (selector &&& (ifSet ^^^ ifClear)) ^^^ ifClear

private def majority (a b c : Nat) : Nat := (a &&& b) ^^^ (a &&& c) ^^^ (b &&& c)

/-- One round. -/
private def round (hash : Sha2) (state : List Nat) (input : Nat) : List Nat :=
  match state with
  | [a, b, c, d, e, f, g, h] =>
      let low := h + hash.mix hash.stateLow e + select e f g + input
      let high := hash.mix hash.stateHigh a + majority a b c
      [(low + high) % hash.modulus, a, b, c, (d + low) % hash.modulus, e, f, g]
  | _ => state

/-- The rounds that are left, each with its constant; the schedule starts with the word of the next
one. -/
private def rounds (hash : Sha2) : List Nat → (schedule state : List Nat) → List Nat
  | [], _, state => state
  | constant :: more, schedule, state =>
      rounds hash more (schedule.drop 1 ++ [hash.nextWord schedule])
        (hash.round state (constant + schedule.getD 0 0))

private def wordBytes (hash : Sha2) : Nat := hash.wordBits / 8

/-- The words that bytes write. -/
private def wordsOf (hash : Sha2) (count : Nat) (bytes : Bytes) : List Nat :=
  (List.range count).map fun index =>
    Der.toNat ((bytes.drop (index * hash.wordBytes)).take hash.wordBytes)

/-- The state after one more block. -/
private def absorb (hash : Sha2) (state : List Nat) (block : Bytes) : List Nat :=
  (hash.rounds hash.roundConstants (hash.wordsOf 16 block) state).zipWith
    (fun new old => (new + old) % hash.modulus) state

/-- The message with a mark behind it, and its length at the end of a whole block. -/
private def padded (hash : Sha2) (message : Bytes) : Bytes :=
  let block := 16 * hash.wordBytes
  let tail := 1 + 2 * hash.wordBytes
  let zeros := (block - (message.length + tail) % block) % block
  message ++ 0x80 :: List.replicate zeros 0 ++
    Der.ofNat (2 * hash.wordBytes) (8 * message.length)

/-- The hash of a message. -/
def digest (hash : Sha2) (message : Bytes) : Bytes :=
  let text := hash.padded message
  let block := 16 * hash.wordBytes
  let last := (List.range (text.length / block)).foldl
    (fun state index => hash.absorb state ((text.drop (index * block)).take block)) hash.start
  (last.flatMap (Der.ofNat hash.wordBytes)).take hash.length

end Sha2

end ProxyDial.Crypto
