import Hotplug.Json.Number
/-!
# Natural numbers in JSON, there and back

The digits that are written for a number of 64 bits are read as that number, if nothing follows that
a number could go on with (`read_toDigits`).
-/

namespace Hotplug.Json.Number

def Ends (s : List Char) : Prop :=
  s.head?.all (fun c => !isDigit c && c ≠ '.' && c ≠ 'e' && c ≠ 'E') = true

theorem ends_cons_iff {c : Char} {s : List Char} :
    Ends (c :: s) ↔ isDigit c = false ∧ c ≠ '.' ∧ c ≠ 'e' ∧ c ≠ 'E' := by
  simp [Ends, and_assoc]

theorem digit?_digitChar {d : Nat} (h : d < 10) : digit? d.digitChar = some d := by
  have hall : ∀ d < 10, digit? d.digitChar = some d := by decide
  exact hall d h

theorem isDigit_digitChar {d : Nat} (h : d < 10) : isDigit d.digitChar = true := by
  rw [isDigit, digit?_digitChar h, Option.isSome_some]

theorem gather_cons {k d : Nat} (hd : d < 10) (h : k * 10 + d ≤ maxWord) (s : List Char) :
    gather k (d.digitChar :: s) = gather (k * 10 + d) s := by
  rw [gather, digit?_digitChar hd]
  exact if_pos h

theorem gather_toDigits {n : Nat} (h : n ≤ maxWord) (s : List Char) :
    gather 0 (Nat.toDigits 10 n ++ s) = gather n s := by
  induction n using Nat.strongRecOn generalizing s with
  | ind n ih =>
    rw [Nat.toDigits_eq_if (by omega)]
    split
    next hn =>
      rw [List.singleton_append, gather_cons hn (by omega), Nat.zero_mul, Nat.zero_add]
    next hn =>
      have hsplit : n / 10 * 10 + n % 10 = n := by omega
      rw [List.append_assoc, List.singleton_append, ih (n / 10) (by omega) (by omega),
        gather_cons (Nat.mod_lt _ (by omega)) (by omega), hsplit]

/-- The first digit of a number, which is zero only if it is the number. -/
theorem exists_toDigits (n : Nat) :
    ∃ d < 10, ∃ ds, Nat.toDigits 10 n = d.digitChar :: ds ∧ (d = 0 → n = 0 ∧ ds = []) := by
  induction n using Nat.strongRecOn with
  | ind n ih =>
    rw [Nat.toDigits_eq_if (by omega)]
    split
    next hn => exact ⟨n, hn, [], rfl, fun h => ⟨h, rfl⟩⟩
    next hn =>
      obtain ⟨d, hd, ds, hds, hzero⟩ := ih (n / 10) (by omega)
      refine ⟨d, hd, ds ++ [(n % 10).digitChar], by rw [hds, List.cons_append], fun h => ?_⟩
      have := (hzero h).1
      omega

section Ends

variable {s : List Char}

theorem gather_of_ends (h : Ends s) (n : Nat) : gather n s = (n, s) := by
  cases s with
  | nil => rfl
  | cons c s =>
    have hc : digit? c = none := by simpa [isDigit] using (ends_cons_iff.1 h).1
    rw [gather, hc]

theorem dropWhile_of_ends (h : Ends s) : s.dropWhile isDigit = s := by
  cases s with
  | nil => rfl
  | cons c s => rw [List.dropWhile_cons_of_neg (by simp [(ends_cons_iff.1 h).1])]

theorem head?_of_ends (h : Ends s) : s.head?.any isDigit = false := by
  cases s with
  | nil => rfl
  | cons c s => exact (ends_cons_iff.1 h).1

theorem whole_of_ends (h : Ends s) (n : Nat) : read.whole false n s 0 = .ok (.natural n, s) := by
  cases s with
  | nil => rfl
  | cons c s =>
    obtain ⟨-, hpoint, he, hE⟩ := ends_cons_iff.1 h
    rw [read.whole.eq_def]
    split
    next heq => exact absurd (List.cons.inj heq).1 hpoint
    next => simp [he, hE]

theorem read_toDigits {n : Nat} (h : n ≤ maxWord) (hs : Ends s) :
    read (Nat.toDigits 10 n ++ s) = .ok (.natural n, s) := by
  obtain ⟨d, hd, ds, hds, hzero⟩ := exists_toDigits n
  have hgather := gather_toDigits h s
  rw [gather_of_ends hs, hds, List.cons_append] at hgather
  rw [hds, List.cons_append]
  by_cases hd0 : d = 0
  · obtain ⟨rfl, rfl⟩ := hzero hd0
    subst hd0
    change (if s.head?.any isDigit then .error Fault.malformed else read.whole false 0 s 0) = _
    rw [head?_of_ends hs, if_neg Bool.false_ne_true, whole_of_ends hs]
  · have hminus : d.digitChar ≠ '-' := Nat.digitChar_ne '-' (by decide)
    have hzeroDigit : d.digitChar ≠ '0' := by
      rw [ne_eq, Nat.digitChar_eq_zero]
      exact hd0
    rw [read, if_pos (isDigit_digitChar hd), hgather]
    · simp only [dropWhile_of_ends hs, Nat.sub_self, whole_of_ends hs]
    · exact hzeroDigit
    · exact fun t heq => hminus (List.cons.inj heq).1

end Ends

/-! ## Only numbers of 64 bits -/

theorem gather_le {k n : Nat} {s rest : List Char} (hk : k ≤ maxWord)
    (h : gather k s = (n, rest)) : n ≤ maxWord := by
  induction s generalizing k with
  | nil =>
    obtain ⟨rfl, -⟩ := Prod.mk.inj h
    exact hk
  | cons c s ih =>
    rw [gather] at h
    split at h
    · obtain ⟨rfl, -⟩ := Prod.mk.inj h
      exact hk
    · split at h
      next hle => exact ih hle h
      next =>
        obtain ⟨rfl, -⟩ := Prod.mk.inj h
        exact hk

theorem eq_other_of_finish {k : Nat} {e : Int} {s rest : List Char} {m : Number}
    (h : finish k e s = .ok (m, rest)) : m = .other := by
  unfold finish at h
  dsimp only at h
  repeat' split at h
  all_goals simp_all

theorem eq_other_of_decimals {k : Nat} {e : Int} {s rest : List Char} {m : Number}
    (h : decimals k e s = .ok (m, rest)) : m = .other := by
  unfold decimals at h
  split at h
  · contradiction
  · split at h
    · exact eq_other_of_finish h
    · contradiction

theorem eq_of_whole {negative : Bool} {k n d : Nat} {s rest : List Char}
    (h : read.whole negative k s d = .ok (.natural n, rest)) : n = k := by
  unfold read.whole at h
  split at h
  · exact nomatch eq_other_of_decimals h
  · split at h
    · exact nomatch eq_other_of_finish h
    · split at h
      · simp at h
      · simp only [Except.ok.injEq, Prod.mk.injEq, natural.injEq] at h
        exact h.1.symm

theorem le_of_read {n : Nat} {s rest : List Char} (h : read s = .ok (.natural n, rest)) :
    n ≤ maxWord := by
  unfold read at h
  dsimp only at h
  split at h
  · contradiction
  · split at h
    · contradiction
    · rw [eq_of_whole h]
      exact Nat.zero_le _
  · split at h
    · rw [eq_of_whole h]
      exact gather_le (Nat.zero_le _) rfl
    · contradiction

end Hotplug.Json.Number
