/-!
# Association lists

A list of pairs is looked up from its front: the first pair with the key counts.
-/

namespace Inflight

set_option autoImplicit false

universe u v

/-- The front pair decides a look-up of its own key, and no other. -/
theorem lookup_cons_ite {α : Type u} {β : Type v} [DecidableEq α] (key other : α) (value : β)
    (rest : List (α × β)) :
    ((key, value) :: rest).lookup other =
      if other = key then some value else rest.lookup other := by
  by_cases same : other = key
  · simp [same]
  · simp [List.lookup_cons, same, beq_false_of_ne same]

end Inflight
