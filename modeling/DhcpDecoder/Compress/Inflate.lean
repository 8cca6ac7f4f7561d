/-!
Decompressing DEFLATE streams (RFC 1951).
-/

namespace DhcpDecoder.Inflate

inductive Stop where
  | finished
  | truncated
  | corrupt (offset : Nat)
  deriving DecidableEq, Repr, Inhabited

/-- A prefix code in canonical form: how many codes each length from 0 to 15 has, the symbols in
code order, and the bits gathered before the first lookup. -/
structure Code where
  counts : Array Nat
  symbols : Array Nat
  least : Nat
  deriving Inhabited

namespace Code

/-- The canonical code of code lengths, one per symbol (zero: the symbol has no code), or `none`
when the lengths over-subscribe the bit strings or leave some unused, a lone code of one bit apart.
-/
def ofLengths (lengths : Array Nat) : Option Code :=
  let counts := lengths.foldl (fun c n => if n = 0 then c else c.modify n (· + 1))
    (Array.replicate 16 0)
  let used := (List.range 16).filter fun n => n != 0 && counts.getD n 0 != 0
  let least := used.head?.getD 0
  let most := used.getLast?.getD 0
  let symbols := ((List.range 16).flatMap fun n =>
    if n = 0 then [] else (List.range lengths.size).filter fun s => lengths.getD s 0 = n).toArray
  let code := (List.range (most + 1)).foldl
    (fun code i => if i < least then code else code * 2 + counts.getD i 0) 0
  if most = 0 then some ⟨counts, #[], 0⟩
  else if code = Nat.pow 2 most || (code = 1 && most = 1) then some ⟨counts, symbols, least⟩
  else none

/-- The symbol whose code starts the bits `bits` (lowest first, `known` of them at hand, the rest
taken as zeros), with the code's length; `none` when no code does. -/
def lookup (h : Code) (bits known : Nat) : Option (Nat × Nat) :=
  go 1 0 0 0 15
where
  go (len code first index : Nat) : Nat → Option (Nat × Nat)
    | 0 => none
    | fuel + 1 =>
      let bit := if len - 1 < known then (bits >>> (len - 1)) % 2 else 0
      let code := code + bit
      let count := h.counts.getD len 0
      if first ≤ code && code - first < count then
        some (h.symbols.getD (index + code - first) 0, len)
      else go (len + 1) (code * 2) ((first + count) * 2) (index + count) fuel

end Code

/-- Where decompression stands: the input and where the stream began in it, the next byte, the bits
read but not yet used (lowest first) and their number, and the output so far. -/
structure Inflater where
  input : ByteArray
  start : Nat
  pos : Nat
  bits : Nat := 0
  count : Nat := 0
  out : ByteArray := ByteArray.empty

abbrev Step := EStateM Stop Inflater

def corrupt {α : Type} : Step α := do
  let s ← get
  throw (.corrupt (s.pos - s.start))

def readByte : Step Unit := do
  let s ← get
  if h : s.pos < s.input.size then
    set { s with bits := s.bits ||| (s.input[s.pos].toNat <<< s.count), count := s.count + 8,
                 pos := s.pos + 1 }
  else throw .truncated

def need (n : Nat) : Nat → Step Unit
  | 0 => pure ()
  | fuel + 1 => do
    if (← get).count < n then
      readByte
      need n fuel

def take (n : Nat) : Step Nat := do
  need n 5
  let s ← get
  set { s with bits := s.bits >>> n, count := s.count - n }
  pure (s.bits % Nat.pow 2 n)

def symbol (h : Code) : Step Nat :=
  go h.least 16
where
  go (n : Nat) : Nat → Step Nat
    | 0 => corrupt
    | fuel + 1 => do
      need n 5
      let s ← get
      match h.lookup s.bits s.count with
      | none => corrupt
      | some (sym, len) =>
        if len ≤ s.count then
          set { s with bits := s.bits >>> len, count := s.count - len }
          pure sym
        else go len fuel

/-- The fixed literal/length code: 8 bits for 0–143, 9 for 144–255, 7 for 256–279 and 8 for 280–287.
-/
def fixedCode : Code :=
  (Code.ofLengths ((List.range 288).map fun s =>
    if s < 144 then 8 else if s < 256 then 9 else if s < 280 then 7 else 8).toArray).getD
    default

def lengthOrder : List Nat := [16, 17, 18, 0, 8, 7, 9, 6, 10, 5, 11, 4, 12, 3, 13, 2, 14, 1, 15]

/-- Reads `n` code lengths with the code-length code: 0–15 are lengths, 16 repeats the last length
3–6 times, 17 gives 3–10 zeros and 18 gives 11–138 zeros. -/
def codeLengths (h : Code) (n : Nat) : Nat → Array Nat → Step (Array Nat)
  | 0, acc => pure acc
  | fuel + 1, acc => do
    if acc.size ≥ n then pure acc
    else
      let x ← symbol h
      if x < 16 then codeLengths h n fuel (acc.push x)
      else
        let (rep, extra, len) ← match x with
          | 16 => do
            if acc.size = 0 then corrupt
            pure (3, 2, acc.back?.getD 0)
          | 17 => pure (3, 3, 0)
          | _ => pure (11, 7, 0)
        let rep := rep + (← take extra)
        if acc.size + rep > n then corrupt
        codeLengths h n fuel (acc ++ Array.replicate rep len)

/-- Reads the codes at the start of a block with its own codes: the literal/length code (gathering
at least the length of the end-of-block code before each lookup) and the distance code. -/
def blockCodes : Step (Code × Code) := do
  need 14 5
  let s ← get
  let nlit := s.bits % 32 + 257
  if nlit > 286 then corrupt
  let ndist := s.bits / 32 % 32 + 1
  if ndist > 30 then corrupt
  let nclen := s.bits / 1024 % 16 + 4
  set { s with bits := s.bits >>> 14, count := s.count - 14 }
  let mut lens := Array.replicate 19 0
  for i in [0:nclen] do
    let v ← take 3
    lens := lens.modify (lengthOrder.getD i 0) fun _ => v
  let some lenCode := Code.ofLengths lens | corrupt
  let all ← codeLengths lenCode (nlit + ndist) (nlit + ndist + 1) #[]
  let some lit := Code.ofLengths (all.extract 0 nlit) | corrupt
  let some dist := Code.ofLengths (all.extract nlit (nlit + ndist)) | corrupt
  let eob := all.getD 256 0
  pure (if lit.least < eob then { lit with least := eob } else lit, dist)

def lengthOf (v : Nat) : Option (Nat × Nat) :=
  if v < 257 then none
  else if v < 265 then some (v - 254, 0)
  else if v < 269 then some (v * 2 - 519, 1)
  else if v < 273 then some (v * 4 - 1057, 2)
  else if v < 277 then some (v * 8 - 2149, 3)
  else if v < 281 then some (v * 16 - 4365, 4)
  else if v < 285 then some (v * 32 - 8861, 5)
  else if v < 286 then some (258, 0)
  else none

def reverse5 (b : Nat) : Nat :=
  (b % 2) * 16 + (b / 2 % 2) * 8 + (b / 4 % 2) * 4 + (b / 8 % 2) * 2 + b / 16 % 2

/-- Appends `len` bytes copied from `dist` bytes back, one at a time, so that a copy may overlap
what it writes. -/
def copyBack (out : ByteArray) (dist : Nat) : Nat → ByteArray
  | 0 => out
  | len + 1 => copyBack (out.push (out.get! (out.size - dist))) dist len

def distance (dist? : Option Code) : Step Nat := do
  let d ← match dist? with
    | none => do
      need 5 5
      let s ← get
      set { s with bits := s.bits >>> 5, count := s.count - 5 }
      pure (reverse5 (s.bits % 32))
    | some h => symbol h
  let d ← if d < 4 then pure (d + 1)
    else if d < 30 then do
      let nb := (d - 2) / 2
      let extra := (d % 2) * Nat.pow 2 nb + (← take nb)
      pure (Nat.pow 2 (nb + 1) + 1 + extra)
    else corrupt
  if d > min (← get).out.size 32768 then corrupt
  pure d

/-- Reads the symbols of a compressed block up to its end-of-block symbol; `dist?` is the distance
code, `none` for the fixed distances of five bits. -/
def compressed (lit : Code) (dist? : Option Code) : Nat → Step Unit
  | 0 => pure ()
  | fuel + 1 => do
    let v ← symbol lit
    if v < 256 then
      modify fun s => { s with out := s.out.push v.toUInt8 }
      compressed lit dist? fuel
    else if v = 256 then pure ()
    else
      let some (base, extra) := lengthOf v | corrupt
      let len := base + (← take extra)
      let d ← distance dist?
      modify fun s => { s with out := copyBack s.out d len }
      compressed lit dist? fuel

/-- Reads a stored block: the rest of the current byte is dropped, then a length, its complement and
that many bytes follow. -/
def stored : Step Unit := do
  let s ← get
  let avail := s.input.size - s.pos
  if avail < 4 then
    set { s with pos := s.input.size, bits := 0, count := 0 }
    throw .truncated
  let b (i : Nat) : Nat := (s.input.get! (s.pos + i)).toNat
  let n := b 0 + b 1 * 256
  let nn := b 2 + b 3 * 256
  set { s with pos := s.pos + 4, bits := 0, count := 0 }
  if nn != 65535 - n then corrupt
  let s ← get
  let got := min n (s.input.size - s.pos)
  set { s with out := s.out ++ s.input.extract s.pos (s.pos + got), pos := s.pos + got }
  if got < n then throw .truncated

def blocks (fuel : Nat) : Nat → Step Unit
  | 0 => pure ()
  | k + 1 => do
    need 3 5
    let s ← get
    let final := s.bits % 2 = 1
    let kind := s.bits / 2 % 4
    set { s with bits := s.bits >>> 3, count := s.count - 3 }
    match kind with
    | 0 => stored
    | 1 => compressed fixedCode none fuel
    | 2 => do
      let (lit, dist) ← blockCodes
      compressed lit (some dist) fuel
    | _ => corrupt
    if !final then blocks fuel k

/-- Decompresses the stream that starts at `start`: the bytes produced, how the stream stopped, and
the position after the last byte it read. -/
def inflate (input : ByteArray) (start : Nat) : ByteArray × Stop × Nat :=
  let fuel := 8 * (input.size - start) + 8
  match (blocks fuel fuel).run ⟨input, start, start, 0, 0, ByteArray.empty⟩ with
  | .ok _ s => (s.out, .finished, s.pos)
  | .error e s => (s.out, e, s.pos)

end DhcpDecoder.Inflate
