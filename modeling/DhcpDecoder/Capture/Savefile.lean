import DhcpDecoder.Capture.ByteOrder
import DhcpDecoder.Compress.Gzip
import DhcpDecoder.Time.Stamp

/-!
Reading capture files: the classic pcap format, plain or gzip-compressed, and pcapng.
-/

namespace DhcpDecoder

inductive NgFault where
  | byteOrderMark
  | version
  | endOfOptions
  | packetBeforeInterface
  | interfaceMissing (id count : Nat)
  | negativeSkip
  | zeroTickRate
  deriving DecidableEq, Repr, Inhabited

def NgFault.message : NgFault → String
  | .byteOrderMark => "Wrong byte order value in Section Header"
  | .version => "Unknown pcapng Version in Section Header"
  | .endOfOptions => "End of Options must be zero length"
  | .packetBeforeInterface => "A section must have an interface before a packet block"
  | .interfaceMissing i n => "Interface id " ++ toString i ++ " not present in section (have only "
    ++ toString n ++ " interfaces)"
  | .negativeSkip => "bufio: negative count"
  | .zeroTickRate => "runtime error: integer divide by zero"

inductive OpenFault where
  | shortHeader
  | endOfInput
  | unknownMagic (magic : Nat)
  | majorVersion (v : Nat)
  | minorVersion (v : Nat)
  | gzip (f : Gzip.Fault)
  | pcapng (f : NgFault)
  deriving DecidableEq, Repr, Inhabited

def OpenFault.message : OpenFault → String
  | .shortHeader => "unexpected EOF"
  | .endOfInput => "EOF"
  | .unknownMagic m => "Unknown magic " ++ String.ofList (Nat.toDigits 16 m)
  | .majorVersion v => "Unknown major version " ++ toString v
  | .minorVersion v => "Unknown minor version " ++ toString v
  | .gzip f => f.message
  | .pcapng f => f.message

inductive RecordFault where
  | shortRecord
  | exceedsSnap (captured snap : Nat)
  | exceedsLength (captured wire : Nat)
  | gzip (f : Gzip.Fault)
  | pcapng (f : NgFault)
  deriving DecidableEq, Repr, Inhabited

def RecordFault.message : RecordFault → String
  | .shortRecord => "unexpected EOF"
  | .exceedsSnap c s => "capture length exceeds snap length: " ++ toString c ++ " > " ++ toString s
  | .exceedsLength c l =>
    "capture length exceeds original packet length: " ++ toString c ++ " > " ++ toString l
  | .gzip f => f.message
  | .pcapng f => f.message

structure CaptureRecord where
  time : Timestamp
  data : List UInt8
  deriving DecidableEq, Repr, Inhabited

/-- What a capture file holds: the link type, the records read, and the fault that stopped reading,
if one did; the index of the failing record is the count of records before it. -/
structure Savefile where
  linkType : Nat
  records : List CaptureRecord
  fault : Option RecordFault := none
  deriving Inhabited

def atLeast {α : Type} : Nat → List α → Bool
  | 0, _ => true
  | _ + 1, [] => false
  | n + 1, _ :: rest => atLeast n rest

theorem atLeast_iff {α : Type} : ∀ (n : Nat) (l : List α), atLeast n l = true ↔ n ≤ l.length
  | 0, _ => by simp [atLeast]
  | _ + 1, [] => by simp [atLeast]
  | n + 1, _ :: rest => by simp [atLeast, atLeast_iff n rest]

namespace Savefile

/-! ### Classic pcap -/

/-- What a read finds when a stream has fewer bytes than it needs: the stream's fault, or, when the
stream ends cleanly, the end when no byte is left and a short read otherwise. -/
def shortfall (fault : Option Gzip.Fault) (rest : List UInt8) : Option RecordFault :=
  match fault with
  | some f => some (.gzip f)
  | none => if rest.isEmpty then none else some .shortRecord

def classicRecords (o : ByteOrder) (unit snap : Nat) (fault : Option Gzip.Fault)
    (bytes : List UInt8) : List CaptureRecord × Option RecordFault :=
  if _short : atLeast 16 bytes = false then ([], shortfall fault bytes)
  else
    let sec := o.read 4 bytes
    let frac := o.read 4 (bytes.drop 4)
    let cap := o.read 4 (bytes.drop 8)
    let orig := o.read 4 (bytes.drop 12)
    let rest := bytes.drop 16
    if cap > snap then ([], some (.exceedsSnap cap snap))
    else if cap > orig then ([], some (.exceedsLength cap orig))
    else if !atLeast cap rest then ([], shortfall fault rest)
    else
      let r : CaptureRecord := ⟨Timestamp.ofParts sec (frac * unit % 4294967296), rest.take cap⟩
      let (more, fault) := classicRecords o unit snap fault (rest.drop cap)
      (r :: more, fault)
termination_by bytes.length
decreasing_by
  have := (atLeast_iff 16 bytes).1 (by simpa using _short)
  simp only [List.length_drop]; omega

def classic (s : ByteStream) : Except OpenFault Savefile :=
  let bytes := s.bytes
  if bytes.length < 24 then
    .error (match s.fault with
      | some f => .gzip f
      | none => if bytes.isEmpty then .endOfInput else .shortHeader)
  else
    let magic := ByteOrder.little.read 4 bytes
    let format :=
      if magic = 0xA1B2C3D4 then some (ByteOrder.little, 1000)
      else if magic = 0xD4C3B2A1 then some (.big, 1000)
      else if magic = 0xA1B23C4D then some (.little, 1)
      else if magic = 0x4D3CB2A1 then some (.big, 1)
      else none
    match format with
    | none => .error (.unknownMagic magic)
    | some (o, unit) =>
      let major := o.read 2 (bytes.drop 4)
      let minor := o.read 2 (bytes.drop 6)
      if major != 2 then .error (.majorVersion major)
      else if minor != 4 then .error (.minorVersion minor)
      else
        let snap := o.read 4 (bytes.drop 16)
        let link := o.read 4 (bytes.drop 20) % 256
        let (records, fault) := classicRecords o unit snap s.fault (bytes.drop 24)
        .ok ⟨link, records, fault⟩

/-! ### pcapng -/

/-- An interface of a pcapng section: link type (kept to 8 bits), snapshot length, timestamp ticks
per second (kept to 64 bits), the factors that turn ticks within a second into nanoseconds, and the
offset in seconds added to timestamps. -/
structure Interface where
  linkType : Nat
  snap : Nat
  perSecond : Nat
  scaleUp : Nat
  scaleDown : Nat
  offset : Nat
  deriving DecidableEq, Repr, Inhabited

def signed64 (n : Nat) : Int :=
  if n < 9223372036854775808 then n else (n : Int) - 18446744073709551616

/-- The interface for a link type, snapshot length, time resolution (ticks of `2 ^ -n` seconds when
the high bit is set, of `10 ^ -n` seconds otherwise; zero means microseconds) and offset. -/
def Interface.make (linkType snap resolution offset : Nat) : Interface :=
  let res := if resolution = 0 then 6 else resolution
  let perSecond := if res ≥ 128 then (if res - 128 < 64 then Nat.pow 2 (res - 128) else 0)
    else Nat.pow 10 res % 18446744073709551616
  let (up, down) := if perSecond < 1000000000 then (1000000000 / perSecond, 1)
    else (1, perSecond / 1000000000)
  ⟨linkType % 256, snap, perSecond, up, down, offset⟩

/-- The time of a timestamp in an interface's ticks: whole seconds plus the offset, and the ticks
within the second scaled to nanoseconds, with 64-bit arithmetic, on a clock of 64-bit seconds. -/
def Interface.time (i : Interface) (ticks : Nat) : Timestamp :=
  let seconds := (ticks / i.perSecond + i.offset) % 18446744073709551616
  let nanos := ticks % i.perSecond * i.scaleUp % 18446744073709551616 / i.scaleDown
  Timestamp.ofClock (signed64 seconds) (signed64 nanos)

/-- Where reading a pcapng file stands: the input left, the byte order, the current section's
interfaces, the file's link type once the first interface has given it, whether a section is open,
the current block's type and the length left in it, and the last option's code and value buffer (a
value shorter than the buffer overwrites its start). -/
structure NgReader where
  rest : List UInt8
  order : ByteOrder := .little
  interfaces : List Interface := []
  linkType : Nat := 0
  linked : Bool := false
  active : Bool := false
  blockType : Nat := 0
  remaining : Nat := 0
  optionCode : Nat := 0
  optionValue : List UInt8 := List.replicate 1024 0
  deriving Inhabited

inductive NgStop where
  | endOfInput
  | fault (f : NgFault)
  deriving DecidableEq, Repr, Inhabited

abbrev NgRead := StateT NgReader (Except NgStop)

def readBytes (n : Nat) : NgRead (List UInt8) := do
  let s ← get
  if atLeast n s.rest then
    set { s with rest := s.rest.drop n }
    pure (s.rest.take n)
  else throw .endOfInput

def skip (n : Int) : NgRead Unit := do
  if n < 0 then throw (.fault .negativeSkip)
  let s ← get
  if atLeast n.toNat s.rest then set { s with rest := s.rest.drop n.toNat }
  else throw .endOfInput

def consume (n : Nat) : NgRead Unit :=
  modify fun s => { s with remaining := ((s.remaining : Int) - n) % 4294967296 |>.toNat }

def skipBlock : NgRead Unit := do
  skip (← get).remaining

def readBlock : NgRead Unit := do
  let h ← readBytes 8
  let kind := (← get).order.read 4 h
  if kind = 0x0A0D0D0A then
    let bom ← readBytes 4
    let order ← if ByteOrder.big.read 4 bom = 0x1A2B3C4D then pure ByteOrder.big
      else if ByteOrder.little.read 4 bom = 0x1A2B3C4D then pure ByteOrder.little
      else throw (.fault .byteOrderMark)
    let remaining := (order.read 4 (h.drop 4) + 4294967296 - 12) % 4294967296
    modify fun s => { s with order := order, blockType := kind, remaining := remaining }
  else
    let remaining := ((← get).order.read 4 (h.drop 4) + 4294967296 - 8) % 4294967296
    modify fun s => { s with blockType := kind, remaining := remaining }

/-- Reads one option of the current block, or gives code 0 when exactly the trailing length is left;
otherwise four bytes are read as an option header whatever is left, and the length left wraps. -/
def readOption : NgRead Unit := do
  if (← get).remaining = 4 then
    modify fun s => { s with optionCode := 0 }
    return
  let h ← readBytes 4
  consume 4
  let o := (← get).order
  let code := o.read 2 h
  let len := o.read 2 (h.drop 2)
  modify fun s => { s with optionCode := code }
  if code = 0 then
    if len ≠ 0 then throw (.fault .endOfOptions)
  else if len ≠ 0 then
    let buffer := (← get).optionValue
    let buffer := if len < buffer.length then buffer else List.replicate len 0
    let v ← readBytes len
    modify fun s => { s with optionValue := v ++ buffer.drop len }
    let pad := if len % 4 = 0 then 0 else 4 - len % 4
    skip pad
    consume ((len + pad) % 65536)

def readOptions {α : Type} (f : α → Nat → List UInt8 → α) (acc : α) : Nat → NgRead α
  | 0 => pure acc
  | fuel + 1 => do
    readOption
    let s ← get
    if s.optionCode = 0 then pure acc
    else readOptions f (f acc s.optionCode s.optionValue) fuel

def readInterface (fuel : Nat) : NgRead Unit := do
  let h ← readBytes 8
  consume 8
  let o := (← get).order
  let (res, offset) ← readOptions (fun (acc : Nat × Nat) code v =>
    if code = 9 then ((v.headD 0).toNat, acc.2)
    else if code = 14 then (acc.1, o.read 8 v) else acc) (0, 0) fuel
  skipBlock
  let i := Interface.make (o.read 2 h) (o.read 4 (h.drop 4)) res offset
  if i.perSecond = 0 then throw (.fault .zeroTickRate)
  modify fun s => { s with interfaces := s.interfaces ++ [i] }

def readStatistics (fuel : Nat) : NgRead Unit := do
  let h ← readBytes 12
  consume 12
  let s ← get
  let id := s.order.read 4 h
  if id ≥ s.interfaces.length then
    throw (.fault (.interfaceMissing id s.interfaces.length))
  let _ ← readOptions (fun (u : Unit) _ _ => u) () fuel
  skipBlock

/-- Reads blocks up to the section's first interface description: other blocks are skipped, but a
packet or statistics block is a fault. -/
def firstInterface (fuel : Nat) : Nat → NgRead Unit
  | 0 => pure ()
  | k + 1 => do
    readBlock
    let kind := (← get).blockType
    if kind = 1 then
      readInterface fuel
      let s ← get
      let lt := (s.interfaces.head?.map (·.linkType)).getD 0
      if !s.linked then set { s with linkType := lt, linked := true }
      else if s.linkType ≠ lt then firstInterface fuel k
    else if kind = 2 || kind = 3 || kind = 5 || kind = 6 then
      throw (.fault .packetBeforeInterface)
    else
      skipBlock
      firstInterface fuel k

/-- Reads a section header after its type and byte-order mark: the section starts with no
interfaces, must be version 1.0, and is open once its first interface is read. -/
def readSection (fuel : Nat) : NgRead Unit := do
  modify fun s => { s with interfaces := [], active := false }
  let h ← readBytes 12
  consume 12
  let o := (← get).order
  if o.read 2 h ≠ 1 || o.read 2 (h.drop 2) ≠ 0 then throw (.fault .version)
  let _ ← readOptions (fun (u : Unit) _ _ => u) () fuel
  skipBlock
  modify fun s => { s with active := true }
  firstInterface fuel fuel

def packetHeader (fuel : Nat) : Nat → NgRead (Timestamp × Nat)
  | 0 => throw .endOfInput
  | k + 1 => do
    readBlock
    let s ← get
    let o := s.order
    if s.blockType = 6 || s.blockType = 2 then
      let h ← readBytes 20
      consume 20
      let id := if s.blockType = 6 then o.read 4 h else o.read 2 h
      match s.interfaces[id]? with
      | none => throw (.fault (.interfaceMissing id s.interfaces.length))
      | some i =>
        if i.linkType ≠ s.linkType then
          skipBlock
          packetHeader fuel k
        else
          let ticks := o.read 4 (h.drop 4) * 4294967296 + o.read 4 (h.drop 8)
          pure (i.time ticks, o.read 4 (h.drop 12))
    else if s.blockType = 3 then
      let h ← readBytes 4
      consume 4
      match s.interfaces.head? with
      | none => throw (.fault (.interfaceMissing 0 0))
      | some i =>
        let len := o.read 4 h
        if i.linkType ≠ s.linkType then
          skipBlock
          packetHeader fuel k
        else pure (Timestamp.zero, if i.snap ≠ 0 && len > i.snap then i.snap else len)
    else
      if s.blockType = 1 then readInterface fuel
      else if s.blockType = 5 then readStatistics fuel
      else if s.blockType = 0x0A0D0D0A then readSection fuel
      else skipBlock
      packetHeader fuel k

/-- Reads the next record: nothing is left once no section is open; the captured bytes follow the
packet's fields, and the rest of its block is skipped. -/
def nextRecord (fuel : Nat) : NgRead CaptureRecord := do
  if !(← get).active then throw .endOfInput
  let (time, cap) ← packetHeader fuel fuel
  let data ← readBytes cap
  skip ((← get).remaining - cap : Int)
  pure ⟨time, data⟩

def ngRecords (fuel : Nat) (r : NgReader) : Nat → List CaptureRecord × Option RecordFault
  | 0 => ([], none)
  | k + 1 =>
    match (nextRecord fuel).run r with
    | .error .endOfInput => ([], none)
    | .error (.fault f) => ([], some (.pcapng f))
    | .ok (record, r) =>
      let (more, fault) := ngRecords fuel r k
      (record :: more, fault)

/-- Opens a pcapng file: its first block, a section header, and the section's first interface. -/
def pcapng (bytes : List UInt8) : Except OpenFault Savefile :=
  let fuel := bytes.length + 2
  match (do readBlock; readSection fuel : NgRead Unit).run { rest := bytes } with
  | .error .endOfInput => .error .endOfInput
  | .error (.fault f) => .error (.pcapng f)
  | .ok ((), r) =>
    let (records, fault) := ngRecords fuel r fuel
    .ok ⟨r.linkType, records, fault⟩

end Savefile

/-- Why a capture does not read: too short for a magic number, a file that does not open, or a
record that does not read (with the count of records before it). -/
inductive CaptureError where
  | noMagic
  | unopenable (fault : OpenFault)
  | badRecord (index : Nat) (fault : RecordFault)
  deriving DecidableEq, Repr, Inhabited

def CaptureError.message : CaptureError → String
  | .noMagic => "capture: read magic: EOF"
  | .unopenable f => "capture: open pcap: " ++ f.message
  | .badRecord i f => "capture: read packet " ++ toString i ++ ": " ++ f.message

/-- The crash a capture error is, with its text: a pcapng interface whose time resolution gives zero
ticks per second, wherever it comes. -/
def CaptureError.crash? : CaptureError → Option String
  | .unopenable (.pcapng .zeroTickRate) => some NgFault.zeroTickRate.message
  | .badRecord _ (.pcapng .zeroTickRate) => some NgFault.zeroTickRate.message
  | _ => none

def Savefile.classicFile (bytes : List UInt8) : Except OpenFault Savefile :=
  if bytes.take 2 = [0x1f, 0x8b] then
    match Gzip.open? (ByteArray.mk bytes.toArray) with
    | .error f => .error (.gzip f)
    | .ok s => Savefile.classic s
  else Savefile.classic ⟨bytes, none⟩

end DhcpDecoder
