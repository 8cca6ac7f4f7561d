import DhcpDecoder.Decoding.Result

/-!
Listener statistics: counts of the datagrams a listener has processed.
-/

namespace DhcpDecoder

structure Stats where
  frames : Nat := 0
  truncated : Nat := 0
  invalid : Nat := 0
  errors : Nat := 0
  seen : Bool := false
  deriving DecidableEq, Repr, Inhabited

namespace Stats

def observe (s : Stats) (r : DecodeResult) : Stats :=
  let s := { s with frames := s.frames + 1, seen := true }
  if r.fault.isSome then { s with errors := s.errors + 1 }
  else if r.truncated then { s with truncated := s.truncated + 1 }
  else if r.validation.isSome then { s with invalid := s.invalid + 1 }
  else s

def steps (s : Stats) : List DecodeResult → List Stats
  | [] => []
  | r :: rest => let t := s.observe r; t :: steps t rest

end Stats

end DhcpDecoder
