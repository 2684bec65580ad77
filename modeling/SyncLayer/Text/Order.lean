/-!
# The order of texts

Texts are ordered as in a dictionary, by the code points of their characters. The bytes of their
UTF-8 forms have the same order.
-/

namespace SyncLayer.Text

/-- Whether a text comes before another one. -/
def comesBefore : List Char → List Char → Bool
  | _, [] => false
  | [], _ :: _ => true
  | a :: s, b :: t => a < b || (a == b && comesBefore s t)

/-- No text comes before itself. -/
theorem comesBefore_self (s : List Char) : comesBefore s s = false := by
  induction s with
  | nil => rfl
  | cons c rest ih => simp [comesBefore, ih]

end SyncLayer.Text
