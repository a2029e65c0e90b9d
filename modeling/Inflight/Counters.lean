import Inflight.Address
import Inflight.Association

/-!
# Counters

How often a misprediction was detected at each address.  Counts only grow, and
asking for the count of an address leaves no trace.
-/

namespace Inflight

set_option autoImplicit false

/-- The number of detections at each address where there was one. -/
structure Counters where
  /-- The addresses with their counts, in the order of their first detection. -/
  entries : List (Address × Nat) := []
deriving DecidableEq, Repr

namespace Counters

variable (counters : Counters)

/-- The number of detections at an address. -/
def count (addr : Address) : Nat :=
  (counters.entries.lookup addr).getD 0

/-- Counts one more detection in a row of entries. -/
def bump (addr : Address) : List (Address × Nat) → List (Address × Nat)
  | [] => [(addr, 1)]
  | entry :: rest =>
    if entry.1 = addr then (addr, entry.2 + 1) :: rest else entry :: bump addr rest

/-- Counts one more detection at an address. -/
def record (addr : Address) : Counters :=
  ⟨bump addr counters.entries⟩

theorem lookup_bump (addr other : Address) (entries : List (Address × Nat)) :
    ((bump addr entries).lookup other).getD 0 =
      (entries.lookup other).getD 0 + if other = addr then 1 else 0 := by
  induction entries with
  | nil => by_cases same : other = addr <;> simp [bump, lookup_cons_ite, same]
  | cons head rest ih =>
    obtain ⟨key, old⟩ := head
    unfold bump
    split
    · next here =>
      have keyEq : key = addr := here
      subst keyEq
      by_cases same : other = key <;> simp [lookup_cons_ite, same]
    · next apart =>
      have differ : key ≠ addr := apart
      by_cases there : other = key
      · simp [there, differ]
      · simpa [lookup_cons_ite, there] using ih

/-- A detection adds one to the count of its address and nothing to any other. -/
theorem count_record (addr other : Address) :
    (counters.record addr).count other =
      counters.count other + if other = addr then 1 else 0 :=
  lookup_bump addr other counters.entries

/-- The number of addresses with a detection. -/
def size : Nat := counters.entries.length

/-- The number of all detections. -/
def total : Nat := counters.entries.foldr (fun entry rest => entry.2 + rest) 0

/-- A detection adds one to the number of all detections. -/
theorem total_record (addr : Address) : (counters.record addr).total = counters.total + 1 := by
  have sum_bump : ∀ entries : List (Address × Nat),
      (bump addr entries).foldr (fun entry rest => entry.2 + rest) 0 =
        entries.foldr (fun entry rest => entry.2 + rest) 0 + 1 := by
    intro entries
    induction entries with
    | nil => rfl
    | cons head rest ih =>
      unfold bump
      split
      · simp only [List.foldr_cons]
        omega
      · simp only [List.foldr_cons, ih]
        omega
  exact sum_bump counters.entries

/-- Whether an entry stands before another among the hottest: the greater count first, and of
equal counts the lower address. -/
def hotter (first second : Address × Nat) : Bool :=
  second.2 < first.2 || (first.2 == second.2 && first.1.word ≤ second.1.word)

/-- The addresses with their counts, the hottest first. -/
def hottest : List (Address × Nat) :=
  counters.entries.mergeSort hotter

end Counters

end Inflight
