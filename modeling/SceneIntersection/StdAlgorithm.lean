import SceneIntersection.Libraries

/-!
# The standard-library algorithms the module uses

A position in a container is a `Nat` and `end()` is the length. Reading through an end iterator
faults (`Fault.endIterator`) and `at()` out of range faults with `Fault.outOfRange`.
`std::lower_bound` is libstdc++'s binary search `__lower_bound`, which halves a window
`(first, len)` with `comp(*middle, value)`; `lowerBound_eq_findIdx` is what the module relies on:
on a list partitioned by the comparison it returns the first position the comparison rejects, the
position a linear scan finds.
-/

namespace BehaviorVelocityPlanner

variable {α : Type}

/-- `c.front()`. -/
def front : List α → Except Fault α
  | [] => .error .endIterator
  | a :: _ => .ok a

/-- `c.back()`. -/
def back (l : List α) : Except Fault α :=
  match l.getLast? with
  | some a => .ok a
  | none => .error .endIterator

/-- `*itr` for the position `i` of a container. -/
def deref (l : List α) (i : Nat) : Except Fault α :=
  match l[i]? with
  | some a => .ok a
  | none => .error .endIterator

/-- `c.at(i)`. -/
def atIndex (l : List α) (i : Nat) : Except Fault α :=
  match l[i]? with
  | some a => .ok a
  | none => .error .outOfRange

@[simp] theorem front_cons (a : α) (l : List α) : front (a :: l) = .ok a := rfl

theorem deref_of_lt {l : List α} {i : Nat} (h : i < l.length) : deref l i = .ok l[i] := by
  simp [deref, h]

theorem deref_of_le {l : List α} {i : Nat} (h : l.length ≤ i) : deref l i = .error .endIterator := by
  simp [deref, List.getElem?_eq_none h]

theorem deref_eq_ok {l : List α} {i : Nat} {a : α} (h : deref l i = .ok a) :
    ∃ hi : i < l.length, l[i] = a := by
  by_cases hi : i < l.length
  · rw [deref_of_lt hi] at h; exact ⟨hi, Except.ok.inj h⟩
  · rw [deref_of_le (by omega)] at h; cases h

/-- `std::find_if(first, last, pred)` with a predicate that may fault: the first position whose
element satisfies `pred`, or the length. -/
def findIf (pred : α → Except Fault Bool) : List α → Except Fault Nat
  | [] => .ok 0
  | a :: rest => do
    if ← pred a then return 0
    return (← findIf pred rest) + 1

theorem findIf_ok {pred : α → Except Fault Bool} {p : α → Bool} {l : List α}
    (h : ∀ a ∈ l, pred a = .ok (p a)) : findIf pred l = .ok (l.findIdx p) := by
  induction l with
  | nil => rfl
  | cons a rest ih =>
    simp only [findIf, h a (List.mem_cons_self _ _), List.findIdx_cons,
      ih fun b hb => h b (List.mem_cons_of_mem _ hb)]
    cases p a <;> rfl

/-- `std::adjacent_find(first, last, pred)`: the first position whose element and the next one
satisfy `pred`, or the length. -/
def adjacentFind (pred : α → α → Bool) : List α → Nat
  | [] => 0
  | [_] => 1
  | a :: b :: rest => if pred a b then 0 else adjacentFind pred (b :: rest) + 1

theorem pair_reverse_eq (f : α → α → Bool) {l : List α} {i j : Nat} (hi : i + 1 < l.reverse.length)
    (hj : j + 1 < l.length) (hij : i + j + 2 = l.length) :
    f l.reverse[i] l.reverse[i + 1] = f l[j + 1] l[j] := by
  simp only [List.getElem_reverse]
  congr 2 <;> omega

section
variable {pred : α → α → Bool}

theorem adjacentFind_spec {l : List α} (h : adjacentFind pred l < l.length) :
    ∃ h' : adjacentFind pred l + 1 < l.length,
      pred l[adjacentFind pred l] l[adjacentFind pred l + 1] = true := by
  induction l using adjacentFind.induct pred with
  | case1 => simp [adjacentFind] at h
  | case2 => simp [adjacentFind] at h
  | case3 a b rest hab => simp [adjacentFind, hab]
  | case4 a b rest hab ih =>
    simp only [adjacentFind, hab, if_false, List.length_cons] at h ⊢
    obtain ⟨h', hp⟩ := ih (by simpa using h)
    exact ⟨by simpa using h', by simpa using hp⟩

theorem adjacentFind_le {l : List α} {j : Nat} (hj : j + 1 < l.length)
    (h : pred l[j] l[j + 1] = true) : adjacentFind pred l ≤ j := by
  induction l using adjacentFind.induct pred generalizing j with
  | case1 => simp at hj
  | case2 => simp at hj
  | case3 => simp [adjacentFind, *]
  | case4 a b rest hab ih =>
    rw [adjacentFind, if_neg hab]
    cases j with
    | zero => simp_all
    | succ j => exact Nat.succ_le_succ (ih (by simpa using hj) (by simpa using h))

theorem adjacentFind_add_one_lt_iff {l : List α} :
    adjacentFind pred l + 1 < l.length ↔ ∃ (i : Nat) (h : i + 1 < l.length), pred l[i] l[i + 1] := by
  constructor
  · intro h
    obtain ⟨h', hp⟩ := adjacentFind_spec (Nat.lt_of_succ_lt h)
    exact ⟨_, h', hp⟩
  · rintro ⟨i, hi, hp⟩
    have := adjacentFind_le hi hp
    omega

theorem exists_adjacent_reverse {l : List α} :
    (∃ (i : Nat) (h : i + 1 < l.reverse.length), pred l.reverse[i] l.reverse[i + 1]) ↔
      ∃ (j : Nat) (h : j + 1 < l.length), pred l[j + 1] l[j] := by
  constructor
  · rintro ⟨i, hi, hp⟩
    have hn : i + 1 < l.length := by simpa using hi
    exact ⟨l.length - 2 - i, by omega, by rwa [← pair_reverse_eq pred hi (by omega) (by omega)]⟩
  · rintro ⟨j, hj, hp⟩
    have hr : l.length - 2 - j + 1 < l.reverse.length := by simp only [List.length_reverse]; omega
    exact ⟨_, hr, by rwa [pair_reverse_eq pred hr hj (by omega)]⟩

theorem adjacentFind_reverse_add_one_lt_iff {l : List α} :
    adjacentFind pred l.reverse + 1 < l.length ↔
      ∃ (j : Nat) (h : j + 1 < l.length), pred l[j + 1] l[j] := by
  have := (@adjacentFind_add_one_lt_iff α pred l.reverse).trans exists_adjacent_reverse
  rwa [List.length_reverse] at this


theorem adjacentFind_reverse_spec {l : List α} (h : adjacentFind pred l.reverse < l.length) :
    ∃ j, ∃ hj : j + 1 < l.length, l.length - adjacentFind pred l.reverse = j + 2 ∧
      pred l[j + 1] l[j] = true ∧ ∀ k (hk : k + 1 < l.length), pred l[k + 1] l[k] = true → k ≤ j := by
  have h' : adjacentFind pred l.reverse < l.reverse.length := by simpa using h
  obtain ⟨hk, hp⟩ := adjacentFind_spec h'
  have hn : adjacentFind pred l.reverse + 1 < l.length := by simpa using hk
  refine ⟨l.length - 2 - adjacentFind pred l.reverse, by omega, by omega,
    by rwa [← pair_reverse_eq pred hk (by omega) (by omega)], fun k hk' hpk => ?_⟩
  -- the pair `k` read backwards is the pair `n - 2 - k` of the reversed list
  have hr : l.length - 2 - k + 1 < l.reverse.length := by simp only [List.length_reverse]; omega
  have hpr : pred l.reverse[l.length - 2 - k] l.reverse[l.length - 2 - k + 1] = true := by
    rwa [pair_reverse_eq pred hr hk' (by omega)]
  have := adjacentFind_le hr hpr
  omega
end

/-! ### `std::lower_bound` -/

/-- libstdc++'s `__lower_bound` loop on the window of `len` positions from `first`; `comp i` is
`comp(*(begin + i), value)`. -/
def lowerBoundLoop (comp : Nat → Bool) (first len : Nat) : Nat :=
  if 0 < len then
    if comp (first + len / 2) then lowerBoundLoop comp (first + len / 2 + 1) (len - len / 2 - 1)
    else lowerBoundLoop comp first (len / 2)
  else first
termination_by len
decreasing_by all_goals omega

/-- `std::lower_bound(l.begin(), l.end(), value, comp)`, with `comp a` for `comp(a, value)`. -/
def lowerBound (comp : α → Bool) (l : List α) : Nat :=
  lowerBoundLoop (fun i => (l[i]?.map comp).getD false) 0 l.length

theorem lowerBoundLoop_eq (comp : Nat → Bool) (first len r : Nat) (h1 : first ≤ r)
    (h2 : r ≤ first + len) (hlt : ∀ i, first ≤ i → i < r → comp i = true)
    (hge : ∀ i, r ≤ i → i < first + len → comp i = false) :
    lowerBoundLoop comp first len = r := by
  induction first, len using lowerBoundLoop.induct comp with
  | case1 first len hlen hmid ih =>
    rw [lowerBoundLoop, if_pos hlen, if_pos hmid]
    have : first + len / 2 < r := by
      by_contra hr
      have := hge (first + len / 2) (by omega) (by omega)
      simp_all
    exact ih (by omega) (by omega) (fun i _ hi => hlt i (by omega) hi)
      (fun i hi _ => hge i hi (by omega))
  | case2 first len hlen hmid ih =>
    rw [lowerBoundLoop, if_pos hlen, if_neg hmid]
    have : r ≤ first + len / 2 := by
      by_contra hr
      have := hlt (first + len / 2) (by omega) (by omega)
      simp_all
    exact ih h1 (by omega) hlt (fun i hi _ => hge i hi (by omega))
  | case3 first len hlen =>
    rw [lowerBoundLoop, if_neg hlen]
    omega

theorem lowerBound_eq_findIdx (comp : α → Bool) (l : List α)
    (hpart : l.Pairwise fun a b => comp b → comp a) :
    lowerBound comp l = l.findIdx fun a => !comp a := by
  apply lowerBoundLoop_eq _ _ _ _ (Nat.zero_le _) (by simpa using List.findIdx_le_length _)
  · intro i _ hi
    have hil : i < l.length := Nat.lt_of_lt_of_le hi (List.findIdx_le_length _)
    have := List.not_of_lt_findIdx hi
    simp_all
  · intro i hi hil
    simp only [Nat.zero_add] at hil
    have hr : l.findIdx (fun a => !comp a) < l.length := Nat.lt_of_le_of_lt hi hil
    have hfind := List.findIdx_getElem (w := hr)
    simp only [Bool.not_eq_true', List.getElem?_eq_getElem hil, Option.map_some', Option.getD_some]
    rcases Nat.lt_or_eq_of_le hi with hi | hi
    · by_contra hc
      have := List.pairwise_iff_getElem.mp hpart _ _ hr hil hi (by simpa using hc)
      simp_all
    · simp_all

end BehaviorVelocityPlanner
