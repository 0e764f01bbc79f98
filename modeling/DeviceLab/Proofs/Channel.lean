import DeviceLab.Channel

/-!
# Laws of channels

What each operation does to the items and the ends of a channel, so that nothing else has to open
them. Only a channel whose receiver is there takes items in; for such a channel `push` is plain
appending (`push_of_receiving`), and so is any number of pushes (`foldl_push_of_receiving`).
-/

namespace DeviceLab

namespace Channel

variable {α : Type} (c : Channel α)

/-! ### Taking and leaving -/

@[simp] theorem rest_items : c.rest.items = c.items.tail := rfl
@[simp] theorem rest_sending : c.rest.sending = c.sending := rfl
@[simp] theorem endSending_items : c.endSending.items = c.items := rfl
@[simp] theorem endReceiving_items : c.endReceiving.items = [] := rfl

/-! ### Pushing -/

@[simp] theorem push_sending (a : α) : (c.push a).sending = c.sending := by
  rw [push]
  split <;> rfl

@[simp] theorem push_receiving (a : α) : (c.push a).receiving = c.receiving := by
  rw [push]
  split <;> rfl

variable {c}

theorem push_of_receiving (h : c.receiving = true) (a : α) :
    c.push a = { c with items := c.items ++ [a] } := by
  rw [push, if_pos h]

theorem foldl_push_of_receiving (h : c.receiving = true) (as : List α) :
    as.foldl push c = { c with items := c.items ++ as } := by
  induction as generalizing c with
  | nil => rw [List.foldl_nil, List.append_nil]
  | cons a as ih =>
    rw [List.foldl_cons, ih (by rw [push_receiving, h]), push_of_receiving h]
    simp

end Channel

end DeviceLab
