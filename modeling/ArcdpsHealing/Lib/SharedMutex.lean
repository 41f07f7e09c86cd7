import Mathlib.Data.Finset.Basic

universe u

namespace ArcdpsHealing.Lib

inductive SharedMutex (T : Type u)
  | shared (holders : Finset T)
  | exclusive (holder : T)

namespace SharedMutex

variable {T : Type u} {m m' : SharedMutex T} {t u : T}

def free : SharedMutex T := .shared ∅

def Shares : SharedMutex T → T → Prop
  | .shared holders, t => t ∈ holders
  | .exclusive _, _ => False

def Owns : SharedMutex T → T → Prop
  | .shared _, _ => False
  | .exclusive holder, t => t = holder

def unlock : SharedMutex T → SharedMutex T
  | .shared holders => .shared holders
  | .exclusive _ => .shared ∅

@[simp] theorem not_shares_free : ¬ (free : SharedMutex T).Shares t := by simp [free, Shares]
@[simp] theorem not_owns_free : ¬ (free : SharedMutex T).Owns t := by simp [free, Owns]

theorem Owns.not_shares (h : m.Owns t) : ¬ m.Shares u := by
  cases m with
  | shared holders => exact h.elim
  | exclusive holder => exact id

theorem Owns.eq (h : m.Owns t) (h' : m.Owns u) : t = u := by
  cases m with
  | shared holders => exact h.elim
  | exclusive holder => exact Eq.trans h h'.symm

theorem Owns.unlock (h : m.Owns t) : ¬ m.unlock.Shares u ∧ ¬ m.unlock.Owns u := by
  cases m with
  | shared holders => exact h.elim
  | exclusive holder => exact ⟨not_shares_free, not_owns_free⟩

section Operations

variable [DecidableEq T]

/-- `none` while the call would block. -/
def lockShared (t : T) : SharedMutex T → Option (SharedMutex T)
  | .shared holders => some (.shared (insert t holders))
  | .exclusive _ => none

def unlockShared (t : T) : SharedMutex T → SharedMutex T
  | .shared holders => .shared (holders.erase t)
  | .exclusive holder => .exclusive holder

def lock (t : T) : SharedMutex T → Option (SharedMutex T)
  | .shared holders => if holders = ∅ then some (.exclusive t) else none
  | .exclusive _ => none

theorem shares_of_lockShared (h : m.lockShared t = some m') :
    m'.Shares u ↔ u = t ∨ m.Shares u := by
  cases m with
  | shared holders =>
    obtain rfl := Option.some.inj h
    exact Finset.mem_insert
  | exclusive holder => cases h

theorem owns_of_lockShared (h : m.lockShared t = some m') : m'.Owns u ↔ m.Owns u := by
  cases m with
  | shared holders =>
    obtain rfl := Option.some.inj h
    exact Iff.rfl
  | exclusive holder => cases h

@[simp, grind =] theorem shares_unlockShared :
    (m.unlockShared t).Shares u ↔ u ≠ t ∧ m.Shares u := by
  cases m with
  | shared holders => exact Finset.mem_erase
  | exclusive holder => exact (iff_of_eq (and_false _)).symm

@[simp, grind =] theorem owns_unlockShared : (m.unlockShared t).Owns u ↔ m.Owns u := by
  cases m with
  | shared holders => exact Iff.rfl
  | exclusive holder => exact Iff.rfl

theorem lock_eq_some : m.lock t = some m' ↔ m = .shared ∅ ∧ m' = .exclusive t := by
  cases m with
  | shared holders =>
    by_cases empty : holders = ∅
    · simp [lock, empty, eq_comm]
    · simp [lock, empty]
  | exclusive holder => simp [lock]

theorem owns_of_lock (h : m.lock t = some m') : m'.Owns u ↔ u = t := by
  rw [(lock_eq_some.mp h).2]
  exact Iff.rfl

theorem not_shares_of_lock (h : m.lock t = some m') : ¬ m.Shares u ∧ ¬ m'.Shares u := by
  rw [(lock_eq_some.mp h).1, (lock_eq_some.mp h).2]
  exact ⟨not_shares_free, id⟩

theorem not_owns_of_lock (h : m.lock t = some m') : ¬ m.Owns u := by
  rw [(lock_eq_some.mp h).1]
  exact id

end Operations

end SharedMutex

end ArcdpsHealing.Lib
