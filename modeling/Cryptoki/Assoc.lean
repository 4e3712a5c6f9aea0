/-!
Association lists with at most one value for each key, the latest first.
-/

namespace Cryptoki

abbrev Assoc (κ α : Type) := List (κ × α)

namespace Assoc

variable {κ α : Type} [DecidableEq κ]

def get? : Assoc κ α → κ → Option α
  | [], _ => none
  | (l, a) :: m, k => if l = k then some a else get? m k

def erase : Assoc κ α → κ → Assoc κ α
  | [], _ => []
  | (l, a) :: m, k => if l = k then erase m k else (l, a) :: erase m k

def put (m : Assoc κ α) (k : κ) (a : α) : Assoc κ α := (k, a) :: erase m k

theorem get?_erase_self (m : Assoc κ α) (k : κ) : get? (erase m k) k = none := by
  induction m with
  | nil => rfl
  | cons e m ih => by_cases h : e.1 = k <;> simp [erase, get?, h, ih]

theorem get?_erase_of_ne (m : Assoc κ α) {k l : κ} (h : l ≠ k) :
    get? (erase m k) l = get? m l := by
  induction m with
  | nil => rfl
  | cons e m ih =>
    by_cases hk : e.1 = k
    · have hl : e.1 ≠ l := fun hl => h (hl ▸ hk)
      rw [erase, if_pos hk, get?, if_neg hl, ih]
    · rw [erase, if_neg hk, get?, get?, ih]

theorem get?_put_self (m : Assoc κ α) (k : κ) (a : α) : get? (put m k a) k = some a := by
  simp [get?, put]

theorem get?_put_of_ne (m : Assoc κ α) {k l : κ} (a : α) (h : l ≠ k) :
    get? (put m k a) l = get? m l := by
  rw [put, get?, if_neg (Ne.symm h), get?_erase_of_ne m h]

end Assoc

end Cryptoki
