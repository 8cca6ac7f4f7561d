/-!
The three enumerations an option value can be: the DHCP message type (option 53), the NetBIOS
node type (option 46) and the option overload (option 52).
-/

namespace DhcpDecoder

structure MessageType where
  byte : UInt8
  deriving DecidableEq, Repr, Inhabited

namespace MessageType

def names : List String :=
  ["Discover", "Offer", "Request", "Decline", "Ack", "Nak", "Release", "Inform", "ForceRenew",
    "LeaseQuery", "LeaseUnassigned", "LeaseUnknown", "LeaseActive", "BulkLeaseQuery",
    "LeaseQueryDone"]

def name? (m : MessageType) : Option String :=
  if m.byte.toNat = 0 then none else names[m.byte.toNat - 1]?

def known (m : MessageType) : Bool := m.name?.isSome

def text (m : MessageType) : String :=
  m.name?.getD ("MessageType(" ++ toString m.byte.toNat ++ ")")

def discover : MessageType := ⟨1⟩
def offer : MessageType := ⟨2⟩
def request : MessageType := ⟨3⟩
def decline : MessageType := ⟨4⟩
def ack : MessageType := ⟨5⟩
def nak : MessageType := ⟨6⟩
def release : MessageType := ⟨7⟩
def inform : MessageType := ⟨8⟩

theorem known_iff (m : MessageType) : m.known = true ↔ 1 ≤ m.byte.toNat ∧ m.byte.toNat ≤ 15 := by
  have h := m.byte.toNat_lt
  simp only [known, name?]
  constructor
  · intro hk
    split at hk
    · simp at hk
    · simp only [Option.isSome_iff_exists, List.getElem?_eq_some_iff] at hk
      obtain ⟨_, hlt, _⟩ := hk
      simp [names] at hlt
      omega
  · intro ⟨lo, hi⟩
    split
    · omega
    · simp only [Option.isSome_iff_exists, List.getElem?_eq_some_iff]
      exact ⟨_, by simp [names]; omega, rfl⟩

end MessageType

structure NodeType where
  byte : UInt8
  deriving DecidableEq, Repr, Inhabited

namespace NodeType

def name? (n : NodeType) : Option String :=
  match n.byte.toNat with
  | 1 => some "B-node"
  | 2 => some "P-node"
  | 4 => some "M-node"
  | 8 => some "H-node"
  | _ => none

def known (n : NodeType) : Bool := n.name?.isSome

def text (n : NodeType) : String :=
  n.name?.getD ("NodeType(" ++ toString n.byte.toNat ++ ")")

end NodeType

structure Overload where
  byte : UInt8
  deriving DecidableEq, Repr, Inhabited

namespace Overload

def none : Overload := ⟨0⟩

def known (o : Overload) : Bool := 1 ≤ o.byte.toNat && o.byte.toNat ≤ 3

def file (o : Overload) : Bool := o.byte.toNat = 1 || o.byte.toNat = 3

def sname (o : Overload) : Bool := o.byte.toNat = 2 || o.byte.toNat = 3

def text (o : Overload) : String :=
  match o.byte.toNat with
  | 1 => "file"
  | 2 => "sname"
  | 3 => "file+sname"
  | n => "Overload(" ++ toString n ++ ")"

theorem known_of_file {o : Overload} (h : o.file = true) : o.known = true := by
  simp only [file, Bool.or_eq_true, decide_eq_true_eq] at h
  simp only [known, Bool.and_eq_true, decide_eq_true_eq]
  omega

theorem known_of_sname {o : Overload} (h : o.sname = true) : o.known = true := by
  simp only [sname, Bool.or_eq_true, decide_eq_true_eq] at h
  simp only [known, Bool.and_eq_true, decide_eq_true_eq]
  omega

end Overload

end DhcpDecoder
