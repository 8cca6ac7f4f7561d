/-!
Hexadecimal digits and the lowercase hex text of byte strings.
-/

namespace DhcpDecoder.Hex

def digit (n : Nat) : Char :=
  if n < 10 then Char.ofNat (48 + n) else Char.ofNat (87 + n)

def upperDigit (n : Nat) : Char :=
  if n < 10 then Char.ofNat (48 + n) else Char.ofNat (55 + n)

def byteDigits (b : UInt8) : List Char :=
  [digit (b.toNat / 16), digit (b.toNat % 16)]

def encode (bytes : List UInt8) : String :=
  String.ofList (bytes.flatMap byteDigits)

/-- Exactly `width` digits of `n` in the given digit function, most significant first; higher digits
are dropped. -/
def fixedDigits (toDigit : Nat → Char) : Nat → Nat → List Char
  | 0, _ => []
  | width + 1, n => fixedDigits toDigit width (n / 16) ++ [toDigit (n % 16)]

/-- The uppercase digits of `n` without leading zeros, padded with zeros to at least `width` digits.
-/
def upperPadded (width n : Nat) : String :=
  let digits := (Nat.toDigits 16 n).map Char.toUpper
  String.ofList (List.replicate (width - digits.length) '0' ++ digits)

def value? (c : Char) : Option Nat :=
  if '0' ≤ c ∧ c ≤ '9' then some (c.toNat - 48)
  else if 'a' ≤ c ∧ c ≤ 'f' then some (c.toNat - 87)
  else if 'A' ≤ c ∧ c ≤ 'F' then some (c.toNat - 55)
  else none

def decodeDigits? : List Char → Option (List UInt8)
  | [] => some []
  | [_] => none
  | hi :: lo :: rest => do
    let h ← value? hi
    let l ← value? lo
    let tail ← decodeDigits? rest
    pure ((h * 16 + l).toUInt8 :: tail)

def decode? (text : String) : Option (List UInt8) :=
  decodeDigits? text.toList

theorem value?_digit (n : Nat) (h : n < 16) : value? (digit n) = some n := by
  rcases n with _ | _ | _ | _ | _ | _ | _ | _ | _ | _ | _ | _ | _ | _ | _ | _ | n
  all_goals first | rfl | omega

theorem decodeDigits?_flatMap (bytes : List UInt8) :
    decodeDigits? (bytes.flatMap byteDigits) = some bytes := by
  induction bytes with
  | nil => rfl
  | cons b rest ih =>
    have hb := b.toNat_lt
    have hi : value? (digit (b.toNat / 16)) = some (b.toNat / 16) :=
      value?_digit _ (by omega)
    have lo : value? (digit (b.toNat % 16)) = some (b.toNat % 16) :=
      value?_digit _ (by omega)
    have whole : (b.toNat / 16 * 16 + b.toNat % 16).toUInt8 = b := by
      rw [Nat.div_add_mod']
      exact UInt8.ofNat_toNat
    simp only [List.flatMap_cons, byteDigits, List.cons_append, List.nil_append,
      decodeDigits?, hi, lo, ih]
    change some ((b.toNat / 16 * 16 + b.toNat % 16).toUInt8 :: rest) = some (b :: rest)
    rw [whole]

theorem decode?_encode (bytes : List UInt8) : decode? (encode bytes) = some bytes := by
  simp [decode?, encode, decodeDigits?_flatMap]

end DhcpDecoder.Hex
