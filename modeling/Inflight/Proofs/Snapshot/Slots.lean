import Inflight.Proofs.Json.Members
import Inflight.Proofs.Snapshot.RoundTrip

/-!
# The shapes of a slot

A slot is written in one of four variants, and a value fits a variant by its shape
alone (`Slot.Fits`): a number of digits that is a word, a truth value, an object with
one member `ref` that is such a number, or null.  No value fits two of them, so it does
not matter in which order they are tried (`Slot.findSome?_decode?`).
-/

namespace Inflight.Slot

set_option autoImplicit false

open Json (Members Node Numeral)

/-! ## Variants -/

/-- The variants of a slot. -/
inductive Variant where
  | scalar
  | flag
  | ref
  | null
deriving DecidableEq

/-- The variants in the order in which they are declared. -/
def Variant.all : List Variant := [.scalar, .flag, .ref, .null]

/-- The value has the shape of the variant, and stands for the slot. -/
inductive Fits : Variant → Node → Slot → Prop where
  | scalar {node : Node} {word : UInt64} : node.word? = some word → Fits .scalar node (.scalar word)
  | flag (value : Bool) : Fits .flag (.boolean value) (.flag value)
  /-- Other members may stand before and after the one member `ref`. -/
  | ref {before after : List (String × Node)} {target : Node} {word : UInt64} :
      (∀ entry ∈ before ++ after, entry.1 ≠ "ref") → target.word? = some word →
        Fits .ref (.object (.ofList (before ++ ("ref", target) :: after))) (.ref ⟨word.toNat⟩)
  | null : Fits .null .null .null

/-- The slot that a value stands for in one of the variants. -/
def Variant.decode? : Variant → Node → Option Slot
  | .scalar, node => node.word?.map Slot.scalar
  | .flag, node => node.boolean?.map Slot.flag
  | .ref, .object members =>
    match members.valuesOf "ref" with
    | [target] => target.word?.map fun word => .ref ⟨word.toNat⟩
    | _ => none
  | .null, .null => some .null
  | _, _ => none

/-! ## Values of a key -/

/-- Members that can be represented are a row of keys and values. -/
theorem exists_ofList {levels : Nat} : ∀ {members : Members},
    members.representable levels = true → ∃ entries, members = .ofList entries
  | .closed, _ => ⟨[], rfl⟩
  | .cons (some name) value rest, representable => by
    rw [Members.representable, Bool.and_eq_true] at representable
    obtain ⟨entries, rfl⟩ := exists_ofList representable.2
    exact ⟨(name, value) :: entries, rfl⟩

theorem valuesOf_ofList (key : String) (entries : List (String × Node)) :
    (Members.ofList entries).valuesOf key =
      (entries.filter fun entry => entry.1 == key).map Prod.snd := by
  induction entries with
  | nil => rfl
  | cons entry rest ih =>
    obtain ⟨name, value⟩ := entry
    rw [Members.ofList, Members.valuesOf, ih, List.filter_cons]
    by_cases same : name = key <;> simp [same]

/-- An object gives a key one value where one of its members has that key. -/
theorem valuesOf_eq_singleton_iff {key : String} {entries : List (String × Node)} {target : Node} :
    (Members.ofList entries).valuesOf key = [target] ↔
      ∃ before after, entries = before ++ (key, target) :: after ∧
        ∀ entry ∈ before ++ after, entry.1 ≠ key := by
  rw [valuesOf_ofList, List.map_eq_singleton_iff]
  constructor
  · rintro ⟨⟨name, value⟩, only, rfl⟩
    obtain ⟨before, after, rfl, notBefore, same, notAfter⟩ := List.filter_eq_cons_iff.mp only
    have notLater := List.filter_eq_nil_iff.mp notAfter
    obtain rfl : name = key := by simpa using same
    refine ⟨before, after, rfl, fun entry member => ?_⟩
    rcases List.mem_append.mp member with earlier | later
    · simpa using notBefore entry earlier
    · simpa using notLater entry later
  · rintro ⟨before, after, rfl, apart⟩
    refine ⟨(key, target), List.filter_eq_cons_iff.mpr ⟨before, after, rfl, ?_, by simp, ?_⟩, rfl⟩
    · intro entry earlier
      simpa using apart entry (List.mem_append_left _ earlier)
    · refine List.filter_eq_nil_iff.mpr fun entry later => ?_
      simpa using apart entry (List.mem_append_right _ later)

/-! ## One variant at most -/

theorem word?_eq (node : Node) : word? node = node.word?.map UInt64.toNat := by
  cases node with
  | number numeral =>
    ext n
    have spelled : word? (.number numeral) = some n ↔ numeral.integer? = some (.ofNat n) := by
      rw [word?]
      split
      · next m same => simp only [same, Option.some.injEq, Int.ofNat.injEq]
      · next other => simpa using other n
    rw [spelled, Option.map_eq_some_iff]
    constructor
    · intro isNatural
      obtain ⟨_, _, fits⟩ := Numeral.integer?_eq_ofNat_iff.mp isNatural
      have same : (UInt64.ofNat n).toNat = n := UInt64.toNat_ofNat_of_lt fits
      exact ⟨UInt64.ofNat n, Node.word?_eq_some_iff.mpr (same.symm ▸ isNatural), same⟩
    · rintro ⟨word, isWord, rfl⟩
      exact Node.word?_eq_some_iff.mp isWord
  | malformed | null | boolean _ | text _ | array _ | object _ => rfl

theorem Fits.decode? {node : Node} {variant : Variant} {slot : Slot}
    (fits : Fits variant node slot) : variant.decode? node = some slot := by
  cases fits with
  | scalar spelled => exact congrArg (Option.map Slot.scalar) spelled
  | flag value => rfl
  | @ref before after target word apart spelled =>
    have only : (Members.ofList (before ++ ("ref", target) :: after)).valuesOf "ref" = [target] :=
      valuesOf_eq_singleton_iff.mpr ⟨before, after, rfl, apart⟩
    simp only [Variant.decode?, only, spelled, Option.map_some]
  | null => rfl

theorem fits_of_decode? {levels : Nat} {node : Node}
    (representable : node.representable levels = true) {variant : Variant} {slot : Slot}
    (decoded : variant.decode? node = some slot) : Fits variant node slot := by
  cases variant with
  | scalar =>
    obtain ⟨word, spelled, rfl⟩ := Option.map_eq_some_iff.mp decoded
    exact .scalar spelled
  | flag =>
    obtain ⟨value, isFlag, rfl⟩ := Option.map_eq_some_iff.mp decoded
    cases node with
    | boolean =>
      cases isFlag
      exact .flag value
    | malformed | null | number _ | text _ | array _ | object _ => cases isFlag
  | ref =>
    cases node with
    | object members =>
      obtain ⟨entries, rfl⟩ : ∃ entries, members = .ofList entries := by
        cases levels with
        | zero => cases representable
        | succ levels => exact exists_ofList representable
      rw [Variant.decode?] at decoded
      split at decoded
      · next target only =>
        obtain ⟨before, after, rfl, apart⟩ := valuesOf_eq_singleton_iff.mp only
        obtain ⟨word, spelled, rfl⟩ := Option.map_eq_some_iff.mp decoded
        exact .ref apart spelled
      · cases decoded
    | malformed | null | boolean _ | number _ | text _ | array _ => cases decoded
  | null =>
    cases node with
    | null =>
      cases decoded
      exact .null
    | malformed | boolean _ | number _ | text _ | array _ | object _ => cases decoded

/-- What a variant takes a value for is what the value fits. -/
theorem decode?_eq_some_iff {levels : Nat} {node : Node}
    (representable : node.representable levels = true) {variant : Variant} {slot : Slot} :
    variant.decode? node = some slot ↔ Fits variant node slot :=
  ⟨fits_of_decode? representable, Fits.decode?⟩

/-- Every value is left to one variant, which takes it for what the reader does. -/
theorem exists_variant (node : Node) :
    ∃ variant : Variant, variant.decode? node = ofNode? node ∧
      ∀ other : Variant, other ≠ variant → other.decode? node = none := by
  cases node with
  | null =>
    refine ⟨.null, rfl, fun other differ => ?_⟩
    cases other with
    | null => exact absurd rfl differ
    | scalar | flag | ref => rfl
  | boolean value =>
    refine ⟨.flag, rfl, fun other differ => ?_⟩
    cases other with
    | flag => exact absurd rfl differ
    | scalar | ref | null => rfl
  | number numeral =>
    refine ⟨.scalar, ?_, fun other differ => ?_⟩
    · rw [Variant.decode?, ofNode?, word?_eq, Option.map_map]
      refine congrArg (fun read => Option.map read _) (funext fun word => ?_)
      rw [Function.comp_apply, UInt64.ofNat_toNat]
    · cases other with
      | scalar => exact absurd rfl differ
      | flag | ref | null => rfl
  | object members =>
    refine ⟨.ref, ?_, fun other differ => ?_⟩
    · rw [Variant.decode?, ofNode?]
      rcases members.valuesOf "ref" with _ | ⟨target, _ | _⟩
      · rfl
      · have read := word?_eq target
        simp only [read, Option.map_map]
        rfl
      · rfl
    · cases other with
      | ref => exact absurd rfl differ
      | scalar | flag | null => rfl
  | malformed | text _ | array _ =>
    refine ⟨.null, rfl, fun other _ => ?_⟩
    cases other <;> rfl

theorem ofNode?_eq_some_iff {node : Node} {slot : Slot} :
    ofNode? node = some slot ↔ ∃ variant : Variant, variant.decode? node = some slot := by
  obtain ⟨variant, same, others⟩ := exists_variant node
  rw [← same]
  constructor
  · intro decoded
    exact ⟨variant, decoded⟩
  · rintro ⟨other, decoded⟩
    by_cases differ : other = variant
    · rwa [← differ]
    · rw [others other differ] at decoded
      cases decoded

theorem decode?_unique {node : Node} {first second : Variant} {one other : Slot}
    (decoded : first.decode? node = some one) (also : second.decode? node = some other) :
    first = second ∧ one = other := by
  obtain ⟨variant, _, others⟩ := exists_variant node
  have only : ∀ {tried : Variant} {slot : Slot}, tried.decode? node = some slot →
      tried = variant := by
    intro tried slot decoded
    by_contra differ
    rw [others tried differ] at decoded
    cases decoded
  have same : first = second := (only decoded).trans (only also).symm
  rw [same, also] at decoded
  exact ⟨same, (Option.some.inj decoded).symm⟩

/-- No value fits two variants. -/
theorem Fits.unique {node : Node} {first second : Variant} {one other : Slot}
    (fits : Fits first node one) (also : Fits second node other) : first = second ∧ one = other :=
  decode?_unique fits.decode? also.decode?

/-- In whatever order the variants are tried, the same slot is found. -/
theorem findSome?_decode? {order : List Variant} (all : order.Perm Variant.all) (node : Node) :
    order.findSome? (fun variant => variant.decode? node) = ofNode? node := by
  have listed : ∀ variant : Variant, variant ∈ order := by
    intro variant
    rw [all.mem_iff]
    cases variant <;> decide
  cases found : order.findSome? fun variant => variant.decode? node with
  | none =>
    have noVariant := List.findSome?_eq_none_iff.mp found
    obtain ⟨variant, same, _⟩ := exists_variant node
    rw [← same, noVariant variant (listed variant)]
  | some slot =>
    obtain ⟨variant, _, decoded⟩ := List.exists_of_findSome?_eq_some found
    exact (ofNode?_eq_some_iff.mpr ⟨variant, decoded⟩).symm

end Inflight.Slot
