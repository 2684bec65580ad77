import SyncLayer.Text.Shown

/-!
# Identities of threads

An identity is a number that fits in a word, so that a lock can keep the one of its owner. Zero
is the identity of no thread.
-/

namespace SyncLayer

/-- A thread, by its number. -/
abbrev ThreadId := Nat

/-- The identity of a thread, or of none. -/
structure Identity where
  raw : UInt64
deriving DecidableEq, Repr

namespace Identity

/-- The identity of no thread. -/
def nobody : Identity := { raw := 0 }

/-- Whether an identity is that of no thread. -/
def isNobody (i : Identity) : Bool :=
  i.raw == 0

/-- The identity of the thread with a number. It is never that of no thread. -/
def ofThread (t : ThreadId) : Identity :=
  { raw := UInt64.ofNat (t % 0xffffffffffffffff + 1) }

/-- An identity as it is shown. -/
def shown (i : Identity) : Text.Shown :=
  .applied "ThreadIdent" [.number i.raw.toNat]

end Identity

end SyncLayer
