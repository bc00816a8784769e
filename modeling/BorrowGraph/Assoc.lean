/-
Association lists in the order of first insertion.

A key stands at most once in a list that is built by `put` alone; giving a key a new value keeps its
place.
-/

namespace BorrowGraph.Assoc

variable {κ α : Type} [DecidableEq κ]

/-- The value of a key. -/
def get? (key : κ) : List (κ × α) → Option α
  | [] => none
  | (k, v) :: entries => if k = key then some v else get? key entries

/-- Give a key a value; a key that is already there keeps its place. -/
def put (key : κ) (value : α) : List (κ × α) → List (κ × α)
  | [] => [(key, value)]
  | (k, v) :: entries =>
    if k = key then (k, value) :: entries else (k, v) :: put key value entries

/-- The entries given one after the other, the last value of a repeated key winning. -/
def ofPairs (pairs : List (κ × α)) : List (κ × α) :=
  pairs.foldl (fun entries (k, v) => put k v entries) []

theorem get?_put (key key' : κ) (value : α) (entries : List (κ × α)) :
    get? key' (put key value entries) = if key' = key then some value else get? key' entries := by
  induction entries with
  | nil =>
    simp only [put, get?]
    by_cases h : key' = key
    · simp [h]
    · simp [h, Ne.symm h]
  | cons x entries ih =>
    obtain ⟨k, v⟩ := x
    simp only [put]
    by_cases hk : k = key
    · subst hk
      by_cases h : key' = k
      · simp [get?, h]
      · simp [get?, h, Ne.symm h]
    · rw [if_neg hk]
      by_cases h : k = key'
      · subst h
        simp [get?, hk]
      · simp [get?, h, ih]

end BorrowGraph.Assoc
