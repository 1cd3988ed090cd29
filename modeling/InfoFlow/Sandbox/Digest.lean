namespace InfoFlow.Sandbox.Digest

/-- The order of the bytes of a number. -/
inductive Order where
  /-- The byte that counts most is first. -/
  | big
  /-- The byte that counts least is first. -/
  | little
deriving DecidableEq

/-- The number that some bytes are. -/
def Order.number (order : Order) (bytes : List UInt8) : Nat :=
  let ordered := match order with | .big => bytes | .little => bytes.reverse
  ordered.foldl (fun n b => 256 * n + b.toNat) 0

/-- A number of bytes that are a number. -/
def Order.bytes (order : Order) (count n : Nat) : List UInt8 :=
  let bytes := (List.range count).map fun place => UInt8.ofNat (n / Nat.pow 256 place)
  match order with | .big => bytes.reverse | .little => bytes

/-- The parts of a list that have a size; the last one may be shorter. Fuel bounds their number. -/
def groupsWithin {α : Type} (size : Nat) : Nat → List α → List (List α)
  | 0, _ => []
  | _, [] => []
  | fuel + 1, xs => xs.take size :: groupsWithin size fuel (xs.drop size)

def groups {α : Type} (size : Nat) (xs : List α) : List (List α) :=
  groupsWithin size xs.length xs

/-- The words that bytes are. -/
def Order.words (order : Order) (width : Nat) (bytes : List UInt8) : List (BitVec width) :=
  (groups (width / 8) bytes).map fun part => BitVec.ofNat width (order.number part)

/-- The bytes of words. -/
def Order.ofWords {width : Nat} (order : Order) (words : List (BitVec width)) : List UInt8 :=
  words.flatMap fun word => order.bytes (width / 8) word.toNat

/-- A message filled up to whole blocks: after it a bit that is set, zeros, and its number of bits,
    which is written in some bytes. -/
def filled (order : Order) (block lengthSize : Nat) (message : List UInt8) : List UInt8 :=
  let taken := (message.length + 1 + lengthSize) % block
  message ++ 0x80 :: List.replicate ((block - taken) % block) 0 ++
    order.bytes lengthSize (8 * message.length)

/-- The blocks of a filled message, as words. -/
def blocks (order : Order) (width lengthSize : Nat) (message : List UInt8) :
    List (Array (BitVec width)) :=
  (groups (2 * width) (filled order (2 * width) lengthSize message)).map fun block =>
    (order.words width block).toArray

/-- Two states, word by word. -/
def sums {width : Nat} (state other : List (BitVec width)) : List (BitVec width) :=
  state.zipWith (· + ·) other

/-- An initial state: the digits of base 16 upwards from the lowest byte, and downwards again. -/
def counting : List (BitVec 32) :=
  [0x67452301, 0xefcdab89, 0x98badcfe, 0x10325476]

/-- The sine of a whole number, in parts of a power of two, from the terms of its series. -/
def sine (bits n : Nat) : Int :=
  ((List.range 160).foldl (fun ((sum, term) : Int × Int) k =>
    let next := -(term * (n * n : Nat)).tdiv ((2 * k + 2) * (2 * k + 3) : Nat)
    (sum + term, next)) (0, (Nat.pow 2 bits * n : Nat))).1

/-- The first digits of the sines of the numbers from 1 to 64, without their signs. -/
def sines : List (BitVec 32) :=
  (List.range 64).map fun n => BitVec.ofNat 32 ((sine 192 (n + 1)).natAbs / Nat.pow 2 160)

/-- How far the words of each round turn. -/
def turns : List (List Nat) :=
  [[7, 12, 17, 22], [5, 9, 14, 20], [4, 11, 16, 23], [6, 10, 15, 21]]

def md5Block (state : List (BitVec 32)) (block : Array (BitVec 32)) : List (BitVec 32) :=
  let step (work : List (BitVec 32)) (place : Nat × BitVec 32) : List (BitVec 32) :=
    match work with
    | [a, b, c, d] =>
      let (n, constant) := place
      let (mixed, index) : BitVec 32 × Nat :=
        match n / 16 with
        | 0 => (b &&& c ||| ~~~b &&& d, n)
        | 1 => (d &&& b ||| ~~~d &&& c, 5 * n + 1)
        | 2 => (b ^^^ c ^^^ d, 3 * n + 5)
        | _ => (c ^^^ (b ||| ~~~d), 7 * n)
      let turn := ((turns[n / 16]?).bind (·[n % 4]?)).getD 0
      let sum := a + mixed + constant + block.getD (index % 16) 0
      [d, b + sum.rotateLeft turn, b, c]
    | work => work
  sums state (((List.range 64).zip sines).foldl step state)

def md5 (message : List UInt8) : List UInt8 :=
  Order.little.ofWords ((blocks .little 32 8 message).foldl md5Block counting)

/-- The words of a block, and those that follow from them. -/
def schedule {width : Nat} (count : Nat) (next : Array (BitVec width) → Nat → BitVec width)
    (block : Array (BitVec width)) : Array (BitVec width) :=
  (List.range (count - 16)).foldl (fun words n => words.push (next words (n + 16))) block

def sha1Block (state : List (BitVec 32)) (block : Array (BitVec 32)) : List (BitVec 32) :=
  let words := schedule 80 (fun words n =>
    (words.getD (n - 3) 0 ^^^ words.getD (n - 8) 0 ^^^ words.getD (n - 14) 0 ^^^
      words.getD (n - 16) 0).rotateLeft 1) block
  let step (work : List (BitVec 32)) (n : Nat) : List (BitVec 32) :=
    match work with
    | [a, b, c, d, e] =>
      let (mixed, constant) : BitVec 32 × BitVec 32 :=
        match n / 20 with
        | 0 => (b &&& c ||| ~~~b &&& d, 0x5a827999)
        | 1 => (b ^^^ c ^^^ d, 0x6ed9eba1)
        | 2 => (b &&& c ||| b &&& d ||| c &&& d, 0x8f1bbcdc)
        | _ => (b ^^^ c ^^^ d, 0xca62c1d6)
      [a.rotateLeft 5 + mixed + e + constant + words.getD n 0, a, b.rotateLeft 30, c, d]
    | work => work
  sums state ((List.range 80).foldl step state)

def sha1 (message : List UInt8) : List UInt8 :=
  Order.big.ofWords ((blocks .big 32 8 message).foldl sha1Block (counting ++ [0xc3d2e1f0]))

def isPrime (n : Nat) : Bool :=
  2 ≤ n && (List.range n).all fun d => d < 2 || n % d != 0

/-- The first eighty primes. -/
def primes : List Nat :=
  (List.range 410).filter isPrime

/-- The largest number below a power of two that has a power which is not larger than a number. -/
def floorRoot (power bits n : Nat) : Nat :=
  (List.range bits).reverse.foldl (fun root bit =>
    let larger := root + Nat.pow 2 bit
    if larger.pow power ≤ n then larger else root) 0

/-- The first digits after the point of a root of a number. -/
def rootDigits (power width n : Nat) : BitVec width :=
  BitVec.ofNat width (floorRoot power (width + 5) (n * Nat.pow 2 (power * width)))

def squareRoots (width : Nat) : List (BitVec width) :=
  primes.map (rootDigits 2 width)

def cubeRoots (width : Nat) : List (BitVec width) :=
  primes.map (rootDigits 3 width)

def cubeRoots32 : Array (BitVec 32) := (cubeRoots 32).toArray
def cubeRoots64 : Array (BitVec 64) := (cubeRoots 64).toArray

/-- How far the words of a block turn, for each of four sums. The last step of the first two sums is
    no turn, but a shift. -/
structure Turning where
  early : Nat × Nat × Nat
  late : Nat × Nat × Nat
  head : Nat × Nat × Nat
  tail : Nat × Nat × Nat

def turning32 : Turning :=
  ⟨(7, 18, 3), (17, 19, 10), (2, 13, 22), (6, 11, 25)⟩

def turning64 : Turning :=
  ⟨(1, 8, 7), (19, 61, 6), (28, 34, 39), (14, 18, 41)⟩

section

variable {width : Nat}

/-- A word turned in two ways and shifted in a third. -/
def shifted (x : BitVec width) : Nat × Nat × Nat → BitVec width
  | (m, n, k) => x.rotateRight m ^^^ x.rotateRight n ^^^ x >>> k

/-- A word turned in three ways. -/
def turned (x : BitVec width) : Nat × Nat × Nat → BitVec width
  | (m, n, k) => x.rotateRight m ^^^ x.rotateRight n ^^^ x.rotateRight k

def sha2Block (turning : Turning) (constants : Array (BitVec width)) (rounds : Nat)
    (state : List (BitVec width)) (block : Array (BitVec width)) : List (BitVec width) :=
  let words := schedule rounds (fun words n =>
    words.getD (n - 16) 0 + shifted (words.getD (n - 15) 0) turning.early +
      words.getD (n - 7) 0 + shifted (words.getD (n - 2) 0) turning.late) block
  let step (work : List (BitVec width)) (n : Nat) : List (BitVec width) :=
    match work with
    | [a, b, c, d, e, f, g, h] =>
      let first := h + turned e turning.tail + (e &&& f ^^^ ~~~e &&& g) + constants.getD n 0 +
        words.getD n 0
      let second := turned a turning.head + (a &&& b ^^^ a &&& c ^^^ b &&& c)
      [first + second, a, b, c, d + first, e, f, g]
    | work => work
  sums state ((List.range rounds).foldl step state)

end

/-- The digest of a family of words of 32 bits, from an initial state. -/
def sha2Short (initial : List (BitVec 32)) (message : List UInt8) : List UInt8 :=
  Order.big.ofWords
    ((blocks .big 32 8 message).foldl (sha2Block turning32 cubeRoots32 64) initial)

/-- The digest of a family of words of 64 bits, from an initial state. -/
def sha2Long (initial : List (BitVec 64)) (message : List UInt8) : List UInt8 :=
  Order.big.ofWords
    ((blocks .big 64 16 message).foldl (sha2Block turning64 cubeRoots64 80) initial)

/-- The initial states: the roots of the first eight primes. -/
def firstRoots32 : List (BitVec 32) := (squareRoots 32).take 8
def firstRoots64 : List (BitVec 64) := (squareRoots 64).take 8

/-- The roots of the next eight primes. -/
def nextRoots64 : List (BitVec 64) := ((squareRoots 64).drop 8).take 8

def sha256 : List UInt8 → List UInt8 := sha2Short firstRoots32
def sha512 : List UInt8 → List UInt8 := sha2Long firstRoots64

def sha384 (message : List UInt8) : List UInt8 :=
  (sha2Long nextRoots64 message).take 48

def sha224 (message : List UInt8) : List UInt8 :=
  (sha2Short (nextRoots64.map (·.setWidth 32)) message).take 28

/-- The order in which the words of a block are mixed, for each of ten rounds. -/
def mixOrders : List (List Nat) :=
  [[0, 1, 2, 3, 4, 5, 6, 7, 8, 9, 10, 11, 12, 13, 14, 15],
   [14, 10, 4, 8, 9, 15, 13, 6, 1, 12, 0, 2, 11, 7, 5, 3],
   [11, 8, 12, 0, 5, 2, 15, 13, 10, 14, 3, 6, 7, 1, 9, 4],
   [7, 9, 3, 1, 13, 12, 11, 14, 2, 6, 5, 10, 4, 0, 15, 8],
   [9, 0, 5, 7, 2, 4, 10, 15, 14, 1, 11, 12, 6, 8, 3, 13],
   [2, 12, 6, 10, 0, 11, 8, 3, 4, 13, 7, 5, 15, 14, 1, 9],
   [12, 5, 1, 15, 14, 13, 4, 10, 0, 7, 6, 3, 9, 2, 8, 11],
   [13, 11, 7, 14, 12, 1, 3, 9, 5, 0, 15, 4, 8, 6, 2, 10],
   [6, 15, 14, 9, 11, 3, 0, 8, 12, 2, 13, 7, 1, 4, 10, 5],
   [10, 2, 8, 4, 7, 6, 1, 5, 15, 11, 9, 14, 3, 12, 13, 0]]

/-- The places that are mixed with each other in a round: the columns of a square, and then its
    diagonals. -/
def mixPlaces : List (Nat × Nat × Nat × Nat) :=
  [(0, 4, 8, 12), (1, 5, 9, 13), (2, 6, 10, 14), (3, 7, 11, 15),
   (0, 5, 10, 15), (1, 6, 11, 12), (2, 7, 8, 13), (3, 4, 9, 14)]

/-- Mixes four words of a square with two of a block. -/
def mix (work : Array (BitVec 64)) (places : Nat × Nat × Nat × Nat) (x y : BitVec 64) :
    Array (BitVec 64) :=
  let (i, j, k, l) := places
  let (a, b, c, d) := (work.getD i 0, work.getD j 0, work.getD k 0, work.getD l 0)
  let a := a + b + x
  let d := (d ^^^ a).rotateRight 32
  let c := c + d
  let b := (b ^^^ c).rotateRight 24
  let a := a + b + y
  let d := (d ^^^ a).rotateRight 16
  let c := c + d
  let b := (b ^^^ c).rotateRight 63
  (((work.setIfInBounds i a).setIfInBounds j b).setIfInBounds k c).setIfInBounds l d

/-- A block of a message, of which so many bytes have been mixed with it. -/
def blake2Block (count : Nat) (isLast : Bool) (state : List (BitVec 64))
    (block : Array (BitVec 64)) : List (BitVec 64) :=
  let marks := [BitVec.ofNat 64 count, 0, if isLast then -1 else 0, 0]
  let square := state ++ firstRoots64.take 4 ++
    (firstRoots64.drop 4).zipWith (· ^^^ ·) marks
  let round (work : Array (BitVec 64)) (n : Nat) : Array (BitVec 64) :=
    let order := (mixOrders[n % 10]?).getD []
    (mixPlaces.zip (groups 2 order)).foldl (fun work (places, pair) =>
      match pair with
      | [m, n] => mix work places (block.getD m 0) (block.getD n 0)
      | _ => work) work
  let work := (List.range 12).foldl round square.toArray
  (List.range 8).map fun n =>
    (state[n]?).getD 0 ^^^ work.getD n 0 ^^^ work.getD (n + 8) 0

/-- The digest of a number of bytes. -/
def blake2b (size : Nat) (message : List UInt8) : List UInt8 :=
  let parts := if message.isEmpty then [[]] else groups 128 message
  let initial := firstRoots64.mapIdx fun n word =>
    if n == 0 then word ^^^ 0x01010000 ^^^ BitVec.ofNat 64 size else word
  let (state, _) := parts.foldl (fun (state, count) part =>
    let count := count + part.length
    let block := (Order.little.words 64 (part ++ List.replicate (128 - part.length) 0)).toArray
    (blake2Block count (count == message.length) state block, count)) (initial, 0)
  (Order.little.ofWords state).take size

/-- The rest of a polynomial with a byte more. -/
def crcStep (rest : BitVec 32) (b : UInt8) : BitVec 32 :=
  (List.range 8).foldl (fun rest _ =>
    if rest.msb then rest <<< 1 ^^^ 0x04c11db7 else rest <<< 1)
    (rest ^^^ BitVec.ofNat 32 b.toNat <<< 24)

/-- The bytes of a length, without those that are zero. -/
def lengthBytes (n : Nat) : List UInt8 :=
  (Order.little.bytes 8 n).reverse.dropWhile (· == 0) |>.reverse

/-- The rest of the polynomial that a message and its length are. -/
def crc (message : List UInt8) : Nat :=
  (~~~(message ++ lengthBytes message.length).foldl crcStep 0).toNat

/-- The sum of the bytes, which turns before each of them. -/
def turningSum (message : List UInt8) : Nat :=
  (message.foldl (fun (sum : BitVec 16) b => sum.rotateRight 1 + BitVec.ofNat 16 b.toNat)
    0).toNat

/-- The sum of the bytes, folded into two of them. -/
def plainSum (message : List UInt8) : Nat :=
  let sum := message.foldl (fun n b => n + b.toNat) 0 % 0x100000000
  let folded := sum % 0x10000 + sum / 0x10000
  folded % 0x10000 + folded / 0x10000

end InfoFlow.Sandbox.Digest
