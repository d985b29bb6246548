import Hotplug.Channel
import Mathlib.Data.List.Basic
/-!
# What a reader of a channel gets

A channel keeps the latest messages of all that were sent (`Carries`). So what a reader gets is
decided by the messages it has not read, as if it had them all in a queue of its own: the next one
of them, or word of how many of them are lost if they are more than the channel keeps (`receive_eq`,
`drain_eq`). Its answers account for every message it has got past (`Accounts`).
-/

namespace Hotplug

variable {α : Type}

/-- Answers that account for these messages, in order and each once: a lag of `n` stands for `n`
messages that were lost. -/
inductive Accounts : List (Received α) → List α → Prop where
  | nil : Accounts [] []
  | nothing {rs : List (Received α)} {as : List α} (h : Accounts rs as) :
      Accounts (.nothing :: rs) as
  | message {rs : List (Received α)} {as : List α} (a : α) (h : Accounts rs as) :
      Accounts (.message a :: rs) (a :: as)
  | lagged {rs : List (Received α)} {as : List α} (lost : List α) (hlost : lost ≠ [])
      (h : Accounts rs as) : Accounts (.lagged lost.length :: rs) (lost ++ as)

theorem Accounts.append {rs rs' : List (Received α)} {as as' : List α} (h : Accounts rs as)
    (h' : Accounts rs' as') : Accounts (rs ++ rs') (as ++ as') := by
  induction h with
  | nil => exact h'
  | nothing _ ih => exact .nothing ih
  | message a _ ih => exact .message a ih
  | lagged lost hlost _ ih =>
    rw [List.append_assoc]
    exact .lagged lost hlost ih

theorem accounts_messages (as : List α) : Accounts (as.map .message) as := by
  induction as with
  | nil => exact .nil
  | cons a as ih => exact .message a ih

namespace Channel

/-- The answer to a reader that has these messages left to read, and how many of them it gets past.
Of too many messages the oldest ones are lost. -/
def nextAnswer (slots : Nat) (unread : List α) : Received α × Nat :=
  match unread with
  | [] => (.nothing, 0)
  | a :: _ =>
    if unread.length ≤ slots then (.message a, 1)
    else (.lagged (unread.length - slots), unread.length - slots)

def allAnswers (slots : Nat) (unread : List α) : List (Received α) :=
  if unread.length ≤ slots then unread.map .message
  else
    .lagged (unread.length - slots) :: (unread.drop (unread.length - slots)).map .message

theorem accounts_surplus {slots : Nat} {unread : List α} (h : slots < unread.length) :
    Accounts [.lagged (unread.length - slots)] (unread.take (unread.length - slots)) := by
  have hlength : (unread.take (unread.length - slots)).length = unread.length - slots := by
    rw [List.length_take]
    omega
  have hlost : unread.take (unread.length - slots) ≠ [] := by
    rw [← List.length_pos_iff, hlength]
    omega
  have hlagged := Accounts.lagged _ hlost .nil
  rwa [hlength, List.append_nil] at hlagged

theorem accounts_nextAnswer (slots : Nat) (unread : List α) :
    Accounts [(nextAnswer slots unread).1] (unread.take (nextAnswer slots unread).2) := by
  cases unread with
  | nil => exact .nothing .nil
  | cons a rest =>
    rw [nextAnswer]
    split
    · exact .message a .nil
    next hfull => exact accounts_surplus (Nat.lt_of_not_le hfull)

theorem nextAnswer_le (slots : Nat) (unread : List α) :
    (nextAnswer slots unread).2 ≤ unread.length := by
  cases unread with
  | nil => exact Nat.le_refl _
  | cons a rest =>
    rw [nextAnswer]
    split
    · exact Nat.succ_le_of_lt (Nat.succ_pos _)
    · exact Nat.sub_le _ _

theorem accounts_allAnswers (slots : Nat) (unread : List α) :
    Accounts (allAnswers slots unread) unread := by
  rw [allAnswers]
  split
  · exact accounts_messages unread
  next hfull =>
    have hall := (accounts_surplus (Nat.lt_of_not_le hfull)).append
      (accounts_messages (unread.drop (unread.length - slots)))
    rwa [List.take_append_drop] at hall

/-- The channel has carried these messages so far. -/
structure Carries (c : Channel α) (all : List α) : Prop where
  sent_eq : c.sent = all.length
  recent_eq : c.recent = all.drop (all.length - c.slots)

variable {c : Channel α} {all : List α}

theorem Carries.send (h : c.Carries all) (a : α) : (c.send a).Carries (all ++ [a]) where
  sent_eq := by
    rw [List.length_append, ← h.sent_eq]
    rfl
  recent_eq := by
    have hrecent : c.recent ++ [a] = (all ++ [a]).drop (all.length - c.slots) := by
      rw [h.recent_eq, List.drop_append_of_le_length (Nat.sub_le _ _)]
    rw [Channel.send]
    simp only [hrecent, List.drop_drop, List.length_drop]
    congr 1
    simp only [List.length_append, List.length_singleton]
    omega

theorem Carries.sendAll (h : c.Carries all) (as : List α) :
    (c.sendAll as).Carries (all ++ as) := by
  induction as generalizing c all with
  | nil => rwa [List.append_nil]
  | cons a as ih =>
    have hall := ih (h.send a)
    rwa [List.append_assoc] at hall

theorem slots_sendAll (c : Channel α) (as : List α) : (c.sendAll as).slots = c.slots := by
  induction as generalizing c with
  | nil => rfl
  | cons a as ih => exact ih (c.send a)

theorem Carries.length_recent (h : c.Carries all) : c.recent.length = min c.slots all.length := by
  rw [h.recent_eq, List.length_drop]
  omega

theorem receive_eq (h : c.Carries all) (k : Nat) :
    c.receive k =
      ((nextAnswer c.slots (all.drop k)).1, k + (nextAnswer c.slots (all.drop k)).2) := by
  have hsent : c.sent - k = (all.drop k).length := by rw [h.sent_eq, List.length_drop]
  have hlength := List.length_drop (i := k) (l := all)
  have hrecent := h.length_recent
  simp only [receive, hsent]
  cases hunread : all.drop k with
  | nil => rfl
  | cons a rest =>
    rw [hunread] at hlength
    have hpos : (a :: rest).length ≠ 0 := Nat.succ_ne_zero _
    rw [if_neg hpos, nextAnswer]
    by_cases hfit : (a :: rest).length ≤ c.slots
    · -- The oldest message not read is still kept.
      have hoffset : all.length - c.slots + (c.recent.length - (a :: rest).length) = k := by omega
      have hget : c.recent[c.recent.length - (a :: rest).length]? = some a := by
        rw [h.recent_eq, List.getElem?_drop, ← h.recent_eq, hoffset, ← List.head?_drop, hunread]
        rfl
      rw [if_neg (by omega), hget, if_pos hfit]
    · have hlost : (a :: rest).length - c.recent.length = (a :: rest).length - c.slots := by omega
      have hnext : c.sent - c.recent.length = k + ((a :: rest).length - c.slots) := by
        rw [h.sent_eq]
        omega
      rw [if_pos (by omega), if_neg hfit, hlost, hnext]

theorem drainGo_eq (h : c.Carries all) {n : Nat} {k : Nat} (hk : k ≤ all.length)
    (hfit : (all.drop k).length ≤ c.slots) (hn : (all.drop k).length ≤ n) :
    drain.go c n k = ((all.drop k).map .message, all.length) := by
  induction n generalizing k with
  | zero =>
    have hnil : all.drop k = [] := List.length_eq_zero_iff.1 (Nat.le_zero.1 hn)
    have hend : k = all.length := Nat.le_antisymm hk (List.drop_eq_nil_iff.1 hnil)
    rw [hnil, drain.go, hend, List.map_nil]
  | succ n ih =>
    rw [drain.go, receive_eq h]
    cases hunread : all.drop k with
    | nil =>
      have hend : k = all.length := Nat.le_antisymm hk (List.drop_eq_nil_iff.1 hunread)
      simp only [nextAnswer, hend, List.map_nil, Nat.add_zero]
    | cons a rest =>
      rw [hunread] at hfit hn
      have hrest : all.drop (k + 1) = rest := by
        rw [← List.drop_drop, hunread, List.drop_one, List.tail_cons]
      have hk' : k + 1 ≤ all.length := by
        have hlength := List.length_drop (i := k) (l := all)
        rw [hunread, List.length_cons] at hlength
        omega
      have hnext := ih hk'
      rw [hrest] at hnext
      simp only [nextAnswer, if_pos hfit, List.map_cons,
        hnext (Nat.le_of_succ_le hfit) (Nat.le_of_succ_le_succ hn)]

theorem drain_eq (h : c.Carries all) {k : Nat} (hk : k ≤ all.length) :
    c.drain k = (allAnswers c.slots (all.drop k), all.length) := by
  have hlength := List.length_drop (i := k) (l := all)
  have hrecent := h.length_recent
  rw [drain, allAnswers]
  by_cases hfit : (all.drop k).length ≤ c.slots
  · rw [if_pos hfit]
    exact drainGo_eq h hk hfit (by omega)
  · -- The first answer is the lag, and behind it nothing more is lost.
    have hnext : nextAnswer c.slots (all.drop k) =
        (.lagged ((all.drop k).length - c.slots), (all.drop k).length - c.slots) := by
      cases hunread : all.drop k with
      | nil => simp [hunread] at hfit
      | cons a rest =>
        rw [hunread] at hfit
        rw [nextAnswer, if_neg hfit]
    rw [if_neg hfit, drain.go, receive_eq h, hnext]
    have hk' : k + ((all.drop k).length - c.slots) ≤ all.length := by omega
    have hlength' := List.length_drop (i := k + ((all.drop k).length - c.slots)) (l := all)
    have hrest := drainGo_eq h (n := c.recent.length) hk' (by omega) (by omega)
    simp only [hrest, List.drop_drop]

end Channel

end Hotplug
