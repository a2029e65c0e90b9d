import Inflight.Counters
import Mathlib.Algebra.Ring.Nat
import Mathlib.Data.Finset.Card
import Mathlib.Data.List.Sort

/-!
# What the counters count

The counters are a row of entries that a detection changes in place or makes
longer at its end.  No address has two entries, and none has an entry without a
detection.  So the counters of a history of detections tell, for each address,
how often it occurs in the history, and their size is the number of the distinct
addresses there (`Counters.Tallies`).

The order of the entries tells which address came first, and nothing that is
counted.  Counters that count alike hold the same entries in some order
(`Counters.Tallies.perm`), and the hottest addresses come in an order that does
not depend on it (`Counters.pairwise_hottest`).  So a history has one ranking
(`Counters.Ranks.unique`), and the hottest addresses are that one, in whatever
order the detections were made and however the entries are sorted
(`Counters.hottest_ofHistory`).
-/

namespace Inflight

set_option autoImplicit false

namespace Counters

variable (counters : Counters) (addr : Address)

/-- The addresses that have an entry. -/
def addresses : List Address :=
  counters.entries.map Prod.fst

/-! ## One detection -/

/-- A detection adds an entry at its address when there is none, and adds none elsewhere. -/
theorem mem_addresses_record (other : Address) :
    other ∈ (counters.record addr).addresses ↔ other = addr ∨ other ∈ counters.addresses := by
  have listed : ∀ entries : List (Address × Nat),
      other ∈ (bump addr entries).map Prod.fst ↔ other = addr ∨ other ∈ entries.map Prod.fst := by
    intro entries
    induction entries with
    | nil => simp [bump]
    | cons entry rest ih =>
      unfold bump
      split
      · next here => simp [here]
      · rw [List.map_cons, List.mem_cons, ih, List.map_cons, List.mem_cons]
        exact or_left_comm
  exact listed counters.entries

/-- A detection leaves every address with one entry at most. -/
theorem nodup_addresses_record (distinct : counters.addresses.Nodup) :
    (counters.record addr).addresses.Nodup := by
  have kept : ∀ entries : List (Address × Nat), (entries.map Prod.fst).Nodup →
      ((bump addr entries).map Prod.fst).Nodup := by
    intro entries
    induction entries with
    | nil => simp [bump]
    | cons entry rest ih =>
      intro distinct
      obtain ⟨fresh, restDistinct⟩ := List.nodup_cons.mp distinct
      unfold bump
      split
      · next here =>
        rw [← here]
        exact List.nodup_cons.mpr ⟨fresh, restDistinct⟩
      · next apart =>
        refine List.nodup_cons.mpr ⟨?_, ih restDistinct⟩
        intro listed
        rcases (mem_addresses_record ⟨rest⟩ addr entry.1).mp listed with here | old
        · exact apart here
        · exact fresh old
  exact kept counters.entries distinct

/-- An address without an entry has the count zero. -/
theorem count_eq_zero (unlisted : addr ∉ counters.addresses) : counters.count addr = 0 := by
  have missing : counters.entries.lookup addr = none := by
    rw [List.lookup_eq_none_iff]
    intro entry present
    rw [bne_iff_ne]
    rintro rfl
    exact unlisted (List.mem_map_of_mem present)
  rw [count, missing, Option.getD_none]

/-! ## Histories of detections -/

/-- The counters tell of a history of detections: how often each address occurs in it, how long
it is, and how many distinct addresses there are. -/
structure Tallies (history : List Address) : Prop where
  count : ∀ addr, counters.count addr = history.count addr
  total : counters.total = history.length
  size : counters.size = history.toFinset.card
  distinct : counters.addresses.Nodup
  listed : ∀ addr, addr ∈ counters.addresses ↔ addr ∈ history

/-- New counters tell of no detection. -/
theorem tallies_nil : ({} : Counters).Tallies [] where
  count _ := rfl
  total := rfl
  size := rfl
  distinct := List.nodup_nil
  listed _ := Iff.rfl

variable {counters}

/-- One more detection makes the history longer by its address. -/
theorem Tallies.record {history : List Address} (tallies : counters.Tallies history) :
    (counters.record addr).Tallies (history ++ [addr]) := by
  have distinct := counters.nodup_addresses_record addr tallies.distinct
  have listed : ∀ other, other ∈ (counters.record addr).addresses ↔
      other ∈ history ++ [addr] := by
    intro other
    rw [mem_addresses_record, tallies.listed, List.mem_append, List.mem_singleton, or_comm]
  refine ⟨?_, ?_, ?_, distinct, listed⟩
  · intro other
    rw [count_record, tallies.count, List.count_append, List.count_singleton]
    by_cases same : other = addr
    · simp [same]
    · simp [same, Ne.symm same]
  · rw [total_record, tallies.total, List.length_append, List.length_singleton]
  · have same : (counters.record addr).addresses.toFinset = (history ++ [addr]).toFinset :=
      Finset.ext fun other => by rw [List.mem_toFinset, List.mem_toFinset, listed]
    calc (counters.record addr).size
        = (counters.record addr).addresses.length := by rw [addresses, List.length_map, Counters.size]
      _ = (counters.record addr).addresses.toFinset.card :=
          (List.toFinset_card_of_nodup distinct).symm
      _ = (history ++ [addr]).toFinset.card := by rw [same]

/-- An entry bears the count of its address. -/
theorem count_of_mem (distinct : counters.addresses.Nodup) {entry : Address × Nat}
    (present : entry ∈ counters.entries) : counters.count entry.1 = entry.2 := by
  -- No entry before this one has its address, so the look-up comes as far as here.
  obtain ⟨early, late, split⟩ := List.append_of_mem present
  have found : counters.entries.lookup entry.1 = some entry.2 := by
    rw [List.lookup_eq_some_iff]
    refine ⟨early, late, split, fun other before => bne_iff_ne.mpr ?_⟩
    rw [addresses, split, List.map_append, List.map_cons] at distinct
    have apart := (List.nodup_append.mp distinct).2.2 other.1 (List.mem_map_of_mem before)
      entry.1 List.mem_cons_self
    exact apart.symm
  rw [count, found, Option.getD_some]

/-- The entries are the addresses of the history, each with the number of times it occurs. -/
theorem Tallies.mem_entries {history : List Address} (tallies : counters.Tallies history)
    (entry : Address × Nat) :
    entry ∈ counters.entries ↔ entry.1 ∈ history ∧ entry.2 = history.count entry.1 := by
  rw [← tallies.listed, ← tallies.count]
  constructor
  · intro present
    exact ⟨List.mem_map_of_mem present, (count_of_mem tallies.distinct present).symm⟩
  · rintro ⟨listed, number⟩
    obtain ⟨other, present, here⟩ := List.mem_map.mp listed
    rw [← here, count_of_mem tallies.distinct present] at number
    rwa [Prod.ext here.symm number]

/-- Counters with the same counts hold the same entries. -/
theorem Tallies.perm {others : Counters} {history elsewhere : List Address}
    (here : counters.Tallies history) (there : others.Tallies elsewhere)
    (same : ∀ addr, counters.count addr = others.count addr) :
    counters.entries.Perm others.entries := by
  rw [List.perm_ext_iff_of_nodup (here.distinct.of_map _) (there.distinct.of_map _)]
  intro entry
  have occurs : entry.1 ∈ history ↔ entry.1 ∈ elsewhere := by
    rw [← List.count_pos_iff, ← List.count_pos_iff, ← here.count, ← there.count, same]
  rw [here.mem_entries, there.mem_entries, occurs, ← here.count, ← there.count, same]

/-! ## The hottest addresses -/

/-- An entry stands before another among the hottest, and not after it. -/
def Leads (first second : Address × Nat) : Prop :=
  second.2 < first.2 ∨ first.2 = second.2 ∧ first.1.word < second.1.word

theorem hotter_iff (first second : Address × Nat) :
    hotter first second = true ↔
      second.2 < first.2 ∨ first.2 = second.2 ∧ first.1.word ≤ second.1.word := by
  simp [hotter]

theorem hotter_trans (first second third : Address × Nat) (early : hotter first second = true)
    (late : hotter second third = true) : hotter first third = true := by
  rw [hotter_iff] at *
  rcases early with more | ⟨same, lower⟩
  · rcases late with again | ⟨equal, -⟩
    · exact .inl (again.trans more)
    · exact .inl (equal ▸ more)
  · rcases late with more | ⟨equal, up⟩
    · exact .inl (same ▸ more)
    · exact .inr ⟨same.trans equal, UInt64.le_trans lower up⟩

theorem hotter_total (first second : Address × Nat) :
    (hotter first second || hotter second first) = true := by
  rw [Bool.or_eq_true, hotter_iff, hotter_iff]
  rcases Nat.lt_trichotomy first.2 second.2 with less | same | more
  · exact .inr (.inl less)
  · rcases UInt64.le_total first.1.word second.1.word with lower | higher
    · exact .inl (.inr ⟨same, lower⟩)
    · exact .inr (.inr ⟨same.symm, higher⟩)
  · exact .inl (.inl more)

theorem leads_of_hotter {first second : Address × Nat} (before : hotter first second = true)
    (apart : first.1 ≠ second.1) : Leads first second := by
  rcases (hotter_iff first second).mp before with more | ⟨same, lower⟩
  · exact .inl more
  · refine .inr ⟨same, UInt64.lt_of_le_of_ne lower fun equal => apart ?_⟩
    obtain ⟨⟨word⟩, _⟩ := first
    exact congrArg Address.mk equal

/-- Two entries do not each stand before the other. -/
theorem Leads.asymm {first second : Address × Nat} (before : Leads first second) :
    ¬Leads second first := by
  intro after
  rcases before with more | ⟨same, lower⟩
  · rcases after with again | ⟨equal, -⟩
    · exact Nat.lt_asymm more again
    · exact absurd equal.symm (Nat.ne_of_lt more).symm
  · rcases after with again | ⟨-, higher⟩
    · exact absurd same (Nat.ne_of_lt again)
    · exact UInt64.lt_irrefl _ (UInt64.lt_trans lower higher)

/-- The entries of a row have one order in which each leads those after it. -/
theorem eq_of_pairwise_leads {row other : List (Address × Nat)} (same : row.Perm other)
    (sorted : row.Pairwise Leads) (again : other.Pairwise Leads) : row = other := by
  apply same.eq_of_pairwise _ sorted again
  intro first second _ _ before after
  exact absurd after before.asymm

/-- In a row with one entry for each address, no two entries stand at one place. -/
theorem pairwise_leads {row : List (Address × Nat)} (once : (row.map Prod.fst).Nodup)
    (sorted : row.Pairwise fun first second => hotter first second = true) :
    row.Pairwise Leads := by
  rw [List.Nodup, List.pairwise_map] at once
  exact (sorted.and once).imp fun both => leads_of_hotter both.1 both.2

variable (counters) in
/-- The hottest addresses are the entries in another order. -/
theorem hottest_perm : counters.hottest.Perm counters.entries :=
  List.mergeSort_perm counters.entries hotter

/-- Among the hottest the greater counts come first, and of equal counts the lower address. -/
theorem pairwise_hottest (distinct : counters.addresses.Nodup) :
    counters.hottest.Pairwise Leads := by
  apply pairwise_leads
  · exact (counters.hottest_perm.map Prod.fst).nodup_iff.mpr distinct
  · exact List.pairwise_mergeSort hotter_trans hotter_total counters.entries

/-- However the entries are sorted, the hottest addresses come out. -/
theorem eq_hottest_of_sorted (distinct : counters.addresses.Nodup) {row : List (Address × Nat)}
    (same : row.Perm counters.entries)
    (sorted : row.Pairwise fun first second => hotter first second = true) :
    row = counters.hottest := by
  have once : (row.map Prod.fst).Nodup := (same.map Prod.fst).nodup_iff.mpr distinct
  apply eq_of_pairwise_leads
  · exact same.trans counters.hottest_perm.symm
  · exact pairwise_leads once sorted
  · exact pairwise_hottest distinct

/-- The same entries have the same order among the hottest. -/
theorem hottest_eq_of_perm {others : Counters} (distinct : counters.addresses.Nodup)
    (same : counters.entries.Perm others.entries) : counters.hottest = others.hottest := by
  have elsewhere : others.addresses.Nodup := (same.map Prod.fst).nodup_iff.mp distinct
  apply eq_hottest_of_sorted elsewhere
  · exact counters.hottest_perm.trans same
  · exact List.pairwise_mergeSort hotter_trans hotter_total counters.entries

/-! ## The ranking of a history -/

variable (counters) in
/-- The number of all detections is the sum of the counts. -/
theorem total_eq_sum : counters.total = (counters.entries.map Prod.snd).sum := by
  rw [total, List.sum, List.foldr_map]

/-- The counters after detections at the addresses of a history, one after the other. -/
def ofHistory (history : List Address) : Counters :=
  history.foldl record {}

theorem tallies_ofHistory (history : List Address) : (ofHistory history).Tallies history := by
  -- A history grows at its end, as the counters do.
  induction history using List.reverseRecOn with
  | nil => exact tallies_nil
  | append_singleton early addr ih =>
    have grown : ofHistory (early ++ [addr]) = (ofHistory early).record addr :=
      List.foldl_append
    rw [grown]
    exact ih.record addr

/-- A row of entries ranks the addresses of a history: each has one entry, with the number of
times it occurs, and every entry leads those after it. -/
structure Ranks (ranking : List (Address × Nat)) (history : List Address) : Prop where
  listed : ∀ entry, entry ∈ ranking ↔ entry.1 ∈ history ∧ entry.2 = history.count entry.1
  once : (ranking.map Prod.fst).Nodup
  order : ranking.Pairwise Leads

theorem Tallies.ranks {history : List Address} (tallies : counters.Tallies history) :
    Ranks counters.hottest history := by
  refine ⟨?_, ?_, pairwise_hottest tallies.distinct⟩
  · intro entry
    rw [counters.hottest_perm.mem_iff]
    exact tallies.mem_entries entry
  · exact (counters.hottest_perm.map Prod.fst).nodup_iff.mpr tallies.distinct

/-- A history has one ranking, whatever the order of its detections. -/
theorem Ranks.unique {ranking other : List (Address × Nat)} {history elsewhere : List Address}
    (ranks : Ranks ranking history) (again : Ranks other elsewhere)
    (same : history.Perm elsewhere) : ranking = other := by
  have entries : ranking.Perm other := by
    rw [List.perm_ext_iff_of_nodup (ranks.once.of_map _) (again.once.of_map _)]
    intro entry
    rw [ranks.listed, again.listed, same.mem_iff, same.count_eq]
  exact eq_of_pairwise_leads entries ranks.order again.order

/-- **The hottest addresses are the ranking of the history.**  There is one entry for each address
of the history, with the number of times it occurs, the greater number first and of equal ones the
lower address; their number is the size of the counters, and the counts add up to the length of
the history.  Another order of the detections changes none of it.  Nor does another order of the
entries, or another way of sorting them. -/
theorem hottest_ofHistory (history : List Address) :
    let counters := ofHistory history
    Ranks counters.hottest history ∧
      counters.hottest.length = counters.size ∧
      (counters.hottest.map Prod.snd).sum = counters.total ∧
      counters.total = history.length ∧
      (∀ other : List Address, other.Perm history →
        (ofHistory other).hottest = counters.hottest ∧
          (ofHistory other).total = counters.total ∧
          (ofHistory other).size = counters.size) ∧
      ∀ table : Counters, table.entries.Perm counters.entries →
        table.total = counters.total ∧ table.size = counters.size ∧
          ∀ row : List (Address × Nat), row.Perm table.entries →
            (row.Pairwise fun first second => hotter first second = true) →
              row = counters.hottest := by
  intro counters
  have tallies : counters.Tallies history := tallies_ofHistory history
  refine ⟨tallies.ranks, counters.hottest_perm.length_eq, ?_, tallies.total, ?_, ?_⟩
  · rw [total_eq_sum, (counters.hottest_perm.map Prod.snd).sum_nat]
  · intro other same
    have others := tallies_ofHistory other
    refine ⟨others.ranks.unique tallies.ranks same, ?_, ?_⟩
    · rw [others.total, tallies.total, same.length_eq]
    · rw [others.size, tallies.size, List.toFinset_eq_of_perm _ _ same]
  · intro table same
    refine ⟨?_, same.length_eq, ?_⟩
    · rw [total_eq_sum, total_eq_sum, (same.map Prod.snd).sum_nat]
    · intro row listed sorted
      exact eq_hottest_of_sorted tallies.distinct (listed.trans same) sorted

/-- Three detections at one address, and two at each of two others. -/
def tiedHistory : List Address :=
  [⟨0x20⟩, ⟨0x30⟩, ⟨0x10⟩, ⟨0x30⟩, ⟨0x20⟩, ⟨0x10⟩, ⟨0x30⟩]

/-- Backwards, and with the entries turned around and sorted by hand: the ranking is the same, and
of the addresses that tie the lower one comes first. -/
theorem hottest_ofHistory_tied :
    let row := [(⟨0x30⟩, 3), (⟨0x10⟩, 2), (⟨0x20⟩, 2)]
    tiedHistory.reverse.Perm tiedHistory ∧
      (ofHistory tiedHistory.reverse).hottest = (ofHistory tiedHistory).hottest ∧
      row.Perm (ofHistory tiedHistory).entries.reverse ∧
      row = (ofHistory tiedHistory).hottest := by
  intro row
  obtain ⟨-, -, -, -, reordered, listed⟩ := hottest_ofHistory tiedHistory
  have backwards : tiedHistory.reverse.Perm tiedHistory := List.reverse_perm _
  have turned : row.Perm (ofHistory tiedHistory).entries.reverse := by decide
  have sorted : row.Pairwise fun first second => hotter first second = true := by decide
  exact ⟨backwards, (reordered _ backwards).1, turned,
    (listed ⟨_⟩ (List.reverse_perm _)).2.2 row turned sorted⟩

end Counters

end Inflight
