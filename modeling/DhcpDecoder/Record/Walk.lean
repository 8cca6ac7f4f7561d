/-!
The record walk: reading a chain of tag, length, value records.
-/

namespace DhcpDecoder.Record

inductive Cut where
  | header
  | value
  deriving DecidableEq, Repr, Inhabited

def Cut.message : Cut → String
  | .header => "tlv: truncated record: short record header"
  | .value => "tlv: truncated record: short record value"

structure Skip (ε : Type) where
  offset : Nat
  tag : UInt8
  length : UInt8
  error : ε
  deriving Repr, Inhabited

def Skip.text {ε : Type} (message : ε → String) (s : Skip ε) : String :=
  "offset=" ++ toString s.offset ++ " tag=" ++ toString s.tag.toNat ++ " len="
    ++ toString s.length.toNat ++ ": " ++ message s.error

def Skip.shift {ε : Type} (k : Nat) (s : Skip ε) : Skip ε :=
  { s with offset := s.offset + k }

/-- How a walk reads records: whether Pad and End are sentinels, the item a sentinel stands for, and
the decoder of a record's value given its tag. -/
structure Rules (α ε : Type) where
  sentinels : Bool
  sentinel : UInt8 → α
  decode : UInt8 → List UInt8 → Except ε α

/-- What a walk found: its items with the offsets of their records, its skipped records, how many
bytes it read, whether it met End, and the cut that stopped it, if any. -/
structure Walk (α ε : Type) where
  items : List α
  offsets : List Nat
  skipped : List (Skip ε)
  consumed : Nat
  ended : Bool
  cut : Option Cut
  deriving Inhabited

namespace Walk

variable {α ε : Type}

def stop (pos : Nat) (ended : Bool) (cut : Option Cut) : Walk α ε :=
  ⟨[], [], [], pos, ended, cut⟩

def withItem (a : α) (pos : Nat) (w : Walk α ε) : Walk α ε :=
  { w with items := a :: w.items, offsets := pos :: w.offsets }

def withSkip (s : Skip ε) (w : Walk α ε) : Walk α ε :=
  { w with skipped := s :: w.skipped }

def isSentinel (r : Rules α ε) (tag : UInt8) : Bool :=
  r.sentinels && (tag == 0 || tag == 255)

def scanFrom (r : Rules α ε) (pos : Nat) : List UInt8 → Walk α ε
  | [] => stop pos false none
  | [tag] =>
    if isSentinel r tag then
      if tag == 255 then (stop (pos + 1) true none).withItem (r.sentinel tag) pos
      else (stop (pos + 1) false none).withItem (r.sentinel tag) pos
    else stop pos false (some .header)
  | tag :: len :: body =>
    if isSentinel r tag then
      if tag == 255 then (stop (pos + 1) true none).withItem (r.sentinel tag) pos
      else (scanFrom r (pos + 1) (len :: body)).withItem (r.sentinel tag) pos
    else if body.length < len.toNat then stop pos false (some .value)
    else
      let next := scanFrom r (pos + 2 + len.toNat) (body.drop len.toNat)
      match r.decode tag (body.take len.toNat) with
      | .ok a => next.withItem a pos
      | .error e => next.withSkip ⟨pos, tag, len, e⟩
termination_by bytes => bytes.length
decreasing_by
  all_goals simp only [List.length_cons, List.length_drop]
  all_goals omega

def ofBytes (r : Rules α ε) (bytes : List UInt8) : Walk α ε :=
  scanFrom r 0 bytes

end Walk

end DhcpDecoder.Record
