import Inflight.Window.Census

/-!
# Walking a window

The ops of a window form a list: the window points to the oldest, and each op to
the next.  A walk follows the list from its head and fails at the first op that
cannot be read.  A list that runs into a circle has no end.  A walk over it that
was given no limit never comes back, and so it has no result; a walk with a limit
does not read an op beyond it, and fails instead of giving a census of a part.
-/

namespace Inflight

set_option autoImplicit false

/-- Where a walk reads, under which names, and how far it may go. -/
structure Walker where
  live : Inspector
  names : Names
  /-- The greatest number of entries that may be visited; none when any number may. -/
  limit : Option Nat

namespace Walker

variable (walker : Walker)

section Counting

variable (pivot : Handle) (cycle : UInt64)

/-- Counts the entries from a place on, of which a given number may still be visited before the
limit is reached. -/
def surveyWithin (limit : Nat) : (room : Nat) → Option Handle → Census → Except Fault Census
  | _, none, census => .ok census
  | 0, some _, _ => .error (.windowOverrun limit)
  | room + 1, some handle, census =>
    match Op.read walker.live walker.names handle with
    | .error fault => .error fault
    | .ok op => surveyWithin limit room op.next (census.observe op pivot cycle)

/-- Counts the entries from a place on, however many there are; there is no result when there is
no end of them. -/
def survey (place : Option Handle) (census : Census) : Option (Except Fault Census) :=
  match place with
  | none => some (.ok census)
  | some handle =>
    match Op.read walker.live walker.names handle with
    | .error fault => some (.error fault)
    | .ok op => by
      -- A call that is applied here leaves no position in the source in the definition.
      apply survey
      · exact op.next
      · exact census.observe op pivot cycle
partial_fixpoint

end Counting

/-- The census of the list with a given head; none when the walk never comes back. -/
def classify (head : Option Handle) (pivot : Handle) (cycle : UInt64) :
    Option (Except Fault Census) :=
  match walker.limit with
  | some limit => some (walker.surveyWithin pivot cycle limit limit head {})
  | none => walker.survey pivot cycle head {}

/-- The census of a window; none when the walk never comes back. -/
def classifyWindow (window pivot : Handle) (cycle : UInt64) : Option (Except Fault Census) :=
  match walker.live.linkAt window walker.names.windowHead with
  | .error fault => some (.error fault)
  | .ok head => walker.classify head pivot cycle

/-- At most `count` of the entries from a place on, of which a given number may still be visited
before the limit is reached.  A fault is the last of them. -/
def entriesFrom (limit : Nat) : (count room : Nat) → Option Handle → List (Except Fault Op)
  | 0, _, _ => []
  | _, _, none => []
  | _ + 1, 0, some _ => [.error (.windowOverrun limit)]
  | count + 1, room + 1, some handle =>
    match Op.read walker.live walker.names handle with
    | .error fault => [.error fault]
    | .ok op => .ok op :: entriesFrom limit count room op.next

/-- The first entries of the list with a given head, at most `count` of them.  Without a limit
there is room for them all. -/
def entries (count : Nat) (head : Option Handle) : List (Except Fault Op) :=
  let limit := walker.limit.getD count
  walker.entriesFrom limit count limit head

end Walker

end Inflight
