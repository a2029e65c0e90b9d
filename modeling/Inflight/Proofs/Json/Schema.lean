import Inflight.Proofs.Json.Members
import Mathlib.Data.List.Forall2
import Mathlib.Data.List.Nodup

/-!
# Records with some of their fields

A kind says what a value has to be, as it would be said without a reader: a word,
a text, a truth value, or an object with known fields (`Json.Kind`).  An object is
admitted when none of the known fields is given twice and each that is given is
admitted itself; the order of the fields is free, any of them may be missing, and
members of other names only have to be well formed (`Json.Kind.Admits`).

Reading such an object changes the record without fields once for each field that
is given.  Whatever the order, the outcome is the same, and it can be said at once
for all fields: it takes a field's new value where there is one, and the old one
elsewhere (`Json.Shape.Takes`).  The reader keeps to that for a whole object when
it does for one field at a time (`Json.Shape.Takes.read`).
-/

namespace Inflight.Json

set_option autoImplicit false

/-! ## Kinds -/

/-- What a value has to be. -/
inductive Kind where
  | word
  /-- A word or null. -/
  | limit
  | text
  | boolean
  /-- Anything with the property. -/
  | such (holds : Node → Prop)
  /-- An object with these fields, and any others. -/
  | record (fields : List (String × Kind))

/-- The value is of the kind. -/
inductive Kind.Admits : Kind → Node → Prop where
  | word {node : Node} {value : UInt64} : node.word? = some value → Admits .word node
  | limit {node : Node} {value : Option UInt64} : node.limit? = some value → Admits .limit node
  | text {node : Node} {value : String} : node.text? = some value → Admits .text node
  | boolean {node : Node} {value : Bool} : node.boolean? = some value → Admits .boolean node
  | such {holds : Node → Prop} {node : Node} : holds node → Admits (.such holds) node
  /-- No known field is given twice, and those given are of their kinds. -/
  | record {fields : List (String × Kind)} {entries : List (String × Node)} :
      entries.Pairwise (fun early late => early.1 ∈ fields.map Prod.fst → early.1 ≠ late.1) →
      (∀ name kind value, (name, kind) ∈ fields → (name, value) ∈ entries → Admits kind value) →
      (∀ name value, (name, value) ∈ entries → name ∉ fields.map Prod.fst →
        value.wellFormed = true) →
      Admits (.record fields) (.object (.ofList entries))

/-- An object is admitted when each of its members is a field with a value of its kind, or
unknown. -/
theorem Kind.Admits.ofMembers {fields : List (String × Kind)} {entries : List (String × Node)}
    (distinct : (fields.map Prod.fst).Nodup)
    (once : entries.Pairwise fun early late =>
      early.1 ∈ fields.map Prod.fst → early.1 ≠ late.1)
    (each : ∀ entry ∈ entries, (∃ kind, (entry.1, kind) ∈ fields ∧ kind.Admits entry.2) ∨
      entry.1 ∉ fields.map Prod.fst ∧ entry.2.wellFormed = true) :
    (Kind.record fields).Admits (.object (.ofList entries)) := by
  refine .record once ?_ ?_
  · intro name kind value ofKind given
    rcases each (name, value) given with ⟨other, ofOther, admitted⟩ | ⟨unknown, _⟩
    · have same := List.inj_on_of_nodup_map distinct ofKind ofOther rfl
      cases same
      exact admitted
    · exact absurd (List.mem_map_of_mem ofKind) unknown
  · intro name value given unknown
    rcases each (name, value) given with ⟨kind, ofKind, _⟩ | ⟨_, formed⟩
    · exact absurd (List.mem_map_of_mem ofKind) unknown
    · exact formed

/-! ## Scalars -/

section Scalars

variable {node : Node} (levels : Nat)

theorem Reader.word_of_word? {value : UInt64} (wanted : String) (word : node.word? = some value) :
    Reader.word wanted levels node = .ok value := by
  cases node with
  | number numeral =>
    have spelled := Node.word?_eq_some_iff.mp word
    simp only [Reader.word, spelled, UInt64.ofNat_toNat]
  | malformed | null | boolean _ | text _ | array _ | object _ => cases word

theorem Reader.optionalWord_of_limit? {value : Option UInt64} (wanted : String)
    (limit : node.limit? = some value) :
    (Reader.word wanted).optional levels node = .ok value := by
  cases node with
  | null =>
    cases limit
    rfl
  | number numeral =>
    obtain ⟨word, spelled, rfl⟩ := Option.map_eq_some_iff.mp limit
    have read := Reader.word_of_word? levels wanted spelled
    exact congrArg (Except.map some) read
  | malformed | boolean _ | text _ | array _ | object _ => cases limit

theorem Reader.text_of_text? {value : String} (text : node.text? = some value) :
    Reader.text levels node = .ok value := by
  cases node with
  | text other =>
    cases text
    rfl
  | malformed | null | boolean _ | number _ | array _ | object _ => cases text

theorem Reader.boolean_of_boolean? {value : Bool} (boolean : node.boolean? = some value) :
    Reader.boolean levels node = .ok value := by
  cases node with
  | boolean other =>
    cases boolean
    rfl
  | malformed | null | text _ | number _ | array _ | object _ => cases boolean

end Scalars

/-! ## Records

An object is read member by member.  What is read of a field is stored at once, and what was
stored before stays: so each member can be thought to come first.
-/

namespace Shape

variable {α : Type} {shape : Shape α} {levels : Nat} {kinds : List (String × Kind)}
  {take : α → (String → Option Node) → α}

theorem of_field? {name : String} {field : Field α} (found : shape.field? name = some field) :
    field ∈ shape.fields ∧ field.name = name := by
  refine ⟨List.mem_of_find?_eq_some found, ?_⟩
  simpa using List.find?_some found

theorem ne_of_field?_eq_none {name : String} (unknown : shape.field? name = none) :
    ∀ field ∈ shape.fields, field.name ≠ name := by
  intro field member
  simpa using List.find?_eq_none.mp unknown field member

/-- A field that may be left out, and that is as well read before the others as given with
them. -/
structure TakesField (take : α → (String → Option Node) → α) (levels : Nat) (field : Field α)
    (entry : String × Kind) : Prop where
  name : field.name = entry.1
  optional : field.required = false
  stores : ∀ {node : Node}, entry.2.Admits node →
    ∃ store, field.read levels node = .ok store ∧
      ∀ {record : α} {value? : String → Option Node}, value? field.name = none →
        take (store record) value? =
          take record (fun name => if name = field.name then some node else value? name)

/-- The values of given fields are taken on by the records of a shape, whose fields are of the
given kinds: all at once, or field by field as the reader does. -/
structure Takes (shape : Shape α) (levels : Nat) (kinds : List (String × Kind))
    (take : α → (String → Option Node) → α) : Prop where
  /-- Where no field is given, the record stays. -/
  nothing : ∀ record, take record (fun _ => none) = record
  /-- Only the fields of the shape are looked at. -/
  alike : ∀ {record : α} {value? other? : String → Option Node},
    (∀ field ∈ shape.fields, value? field.name = other? field.name) →
      take record value? = take record other?
  fields : List.Forall₂ (TakesField take levels) shape.fields kinds

theorem Takes.field (takes : shape.Takes levels kinds take) :
    ∀ field ∈ shape.fields, ∃ entry ∈ kinds, TakesField take levels field entry := by
  obtain ⟨_, _, paired⟩ := takes
  generalize shape.fields = fields at paired
  induction paired with
  | nil => exact fun _ member => absurd member List.not_mem_nil
  | @cons first entry _ entries paired _ ih =>
    refine List.forall_mem_cons.mpr ⟨⟨entry, List.mem_cons_self, paired⟩, ?_⟩
    intro field member
    obtain ⟨other, listed, takesField⟩ := ih field member
    exact ⟨other, List.mem_cons_of_mem _ listed, takesField⟩

theorem Takes.names (takes : shape.Takes levels kinds take) :
    shape.fields.map Field.name = kinds.map Prod.fst := by
  obtain ⟨_, _, paired⟩ := takes
  generalize shape.fields = fields at paired ⊢
  induction paired with
  | nil => rfl
  | cons paired _ ih => rw [List.map_cons, List.map_cons, paired.name, ih]

theorem Takes.mem_names_iff (takes : shape.Takes levels kinds take) {name : String} :
    name ∈ kinds.map Prod.fst ↔ ∃ field ∈ shape.fields, field.name = name := by
  rw [← takes.names, List.mem_map]

theorem Takes.missing? (takes : shape.Takes levels kinds take) (seen : List String) :
    shape.missing? seen = none := by
  refine List.find?_eq_none.mpr fun field member => ?_
  obtain ⟨_, _, takesField⟩ := takes.field field member
  simp [takesField.optional]

/-- Members are read one after the other, and the record takes on the values of those that are
fields. -/
theorem Takes.readMembers (takes : shape.Takes levels kinds take)
    {entries : List (String × Node)} :
    ∀ {seen : List String} {record : α},
      (∀ entry ∈ entries, entry.1 ∈ kinds.map Prod.fst → entry.1 ∉ seen) →
      entries.Pairwise (fun early late => early.1 ∈ kinds.map Prod.fst → early.1 ≠ late.1) →
      (∀ name kind value, (name, kind) ∈ kinds → (name, value) ∈ entries → kind.Admits value) →
      (∀ name value, (name, value) ∈ entries → name ∉ kinds.map Prod.fst →
        value.wellFormed = true) →
      shape.readMembers levels seen record (.ofList entries) =
        .ok (take record fun name => entries.lookup name) := by
  induction entries with
  | nil =>
    intro seen record _ _ _ _
    rw [Members.ofList, Shape.readMembers, takes.missing?]
    exact congrArg Except.ok (takes.nothing record).symm
  | cons entry rest ih =>
    obtain ⟨key, value⟩ := entry
    intro seen record fresh once known others
    obtain ⟨apart, later⟩ := List.pairwise_cons.mp once
    have knownLater : ∀ name kind value, (name, kind) ∈ kinds → (name, value) ∈ rest →
        kind.Admits value := fun name kind value mem given =>
      known name kind value mem (List.mem_cons_of_mem _ given)
    have othersLater : ∀ name value, (name, value) ∈ rest → name ∉ kinds.map Prod.fst →
        value.wellFormed = true := fun name value given unknown =>
      others name value (List.mem_cons_of_mem _ given) unknown
    rw [Members.ofList, Shape.readMembers]
    cases found : shape.field? key with
    | none =>
      -- A member that is no field changes nothing, and is not asked for later.
      have differ := ne_of_field?_eq_none found
      have unknown : key ∉ kinds.map Prod.fst := by
        rw [takes.mem_names_iff]
        rintro ⟨field, member, same⟩
        exact differ field member same
      have freshLater : ∀ entry ∈ rest, entry.1 ∈ kinds.map Prod.fst → entry.1 ∉ seen :=
        fun entry member => fresh entry (List.mem_cons_of_mem _ member)
      have ahead := @ih seen record freshLater later knownLater othersLater
      have same : take record (fun name => rest.lookup name) =
          take record (fun name => ((key, value) :: rest).lookup name) := by
        refine takes.alike fun field member => ?_
        rw [lookup_cons_ite, if_neg (differ field member)]
      simp only [others key value List.mem_cons_self unknown, if_true]
      rw [ahead, same]
    | some field =>
      obtain ⟨member, rfl⟩ := of_field? found
      have isKnown : field.name ∈ kinds.map Prod.fst := takes.mem_names_iff.mpr ⟨field, member, rfl⟩
      have unseen : field.name ∉ seen := fresh _ List.mem_cons_self isKnown
      obtain ⟨⟨name, kind⟩, ofKind, takesField⟩ := takes.field field member
      have admitted := known name kind value ofKind (takesField.name ▸ List.mem_cons_self)
      obtain ⟨store, read, stored⟩ := takesField.stores admitted
      -- The field is not given again, so that it may as well be stored before the others.
      have freshLater : ∀ entry ∈ rest, entry.1 ∈ kinds.map Prod.fst →
          entry.1 ∉ field.name :: seen := by
        intro entry given isField
        rw [List.mem_cons, not_or]
        exact ⟨(apart entry given isKnown).symm,
          fresh entry (List.mem_cons_of_mem _ given) isField⟩
      have ahead := @ih _ (store record) freshLater later knownLater othersLater
      have absent : rest.lookup field.name = none := by
        refine List.lookup_eq_none_iff.mpr fun entry given => ?_
        exact bne_iff_ne.mpr (apart entry given isKnown)
      have same : take (store record) (fun name => rest.lookup name) =
          take record (fun name => ((field.name, value) :: rest).lookup name) := by
        rw [stored absent]
        refine takes.alike fun other _ => ?_
        rw [lookup_cons_ite]
      have notSeen : seen.contains field.name = false := by
        simpa using unseen
      simp only [notSeen, read]
      rw [← same, ← ahead]
      rfl

/-- An admitted object is read, and the record without fields takes on the values given. -/
theorem Takes.read (takes : shape.Takes levels kinds take) {node : Node}
    (admitted : (Kind.record kinds).Admits node) :
    shape.read (levels + 1) node = .ok (take shape.blank fun name => node.at? [name]) := by
  cases admitted with
  | record once known others =>
    rename_i entries
    have members : shape.readMembers levels [] shape.blank (.ofList entries) =
        .ok (take shape.blank fun name => entries.lookup name) :=
      takes.readMembers (fun _ _ _ => List.not_mem_nil) once known others
    have same : take shape.blank (fun name => (Node.object (.ofList entries)).at? [name]) =
        take shape.blank (fun name => entries.lookup name) := by
      refine takes.alike fun field _ => ?_
      rw [Node.at?_ofList]
    rw [same, ← members]
    rfl

/-! ### Refusals -/

/-- Where each field that is given is read or refused with the one problem, and one of them is
refused, so is the object. -/
theorem readMembers_of_refused {problem : Problem} {entries : List (String × Node)} :
    ∀ {seen : List String} {record : α},
      (∀ entry ∈ entries, ∀ field, shape.field? entry.1 = some field → entry.1 ∉ seen) →
      entries.Pairwise (fun early late => ∀ field, shape.field? early.1 = some field →
        early.1 ≠ late.1) →
      (∀ entry ∈ entries, shape.field? entry.1 = none → entry.2.wellFormed = true) →
      (∀ entry ∈ entries, ∀ field, shape.field? entry.1 = some field →
        (∃ store, field.read levels entry.2 = .ok store) ∨
          field.read levels entry.2 = .error problem) →
      (∃ entry ∈ entries, ∃ field, shape.field? entry.1 = some field ∧
        field.read levels entry.2 = .error problem) →
      shape.readMembers levels seen record (.ofList entries) = .error problem := by
  induction entries with
  | nil =>
    intro _ _ _ _ _ _ refused
    simp at refused
  | cons entry rest ih =>
    obtain ⟨key, value⟩ := entry
    intro seen record fresh once others settled refused
    obtain ⟨apart, onceLater⟩ := List.pairwise_cons.mp once
    obtain ⟨here, othersLater⟩ := List.forall_mem_cons.mp others
    obtain ⟨settledHere, settledLater⟩ := List.forall_mem_cons.mp settled
    obtain ⟨freshHere, freshLater⟩ := List.forall_mem_cons.mp fresh
    rw [List.exists_mem_cons_iff] at refused
    rw [Members.ofList, Shape.readMembers]
    cases found : shape.field? key with
    | none =>
      have later := refused.resolve_left (by simp [found])
      simp only [here found, if_true]
      exact ih freshLater onceLater othersLater settledLater later
    | some field =>
      have notSeen : seen.contains key = false := by
        simpa using freshHere field found
      rcases settledHere field found with ⟨store, read⟩ | error
      · have later := refused.resolve_left (by simp [found, read])
        have freshAfter : ∀ entry ∈ rest, ∀ field, shape.field? entry.1 = some field →
            entry.1 ∉ key :: seen := by
          intro entry member other given
          rw [List.mem_cons, not_or]
          exact ⟨(apart entry member field found).symm, freshLater entry member other given⟩
        have ahead := @ih _ (store record) freshAfter onceLater othersLater settledLater later
        simp only [notSeen, read]
        exact ahead
      · simp only [notSeen, error]
        rfl

/-! ### Items

A record that is written as an array is read place by place, and refused with the first item that
is.
-/

section Items

variable {β : Type} {name : String} {reader : Reader β} {store : β → α → α} {position : Nat}
  {fields : List (Field α)} {record : α} {item : Node} {rest : Items}

theorem readItems_of_read {value : β} (read : reader levels item = .ok value) :
    shape.readItems levels position (.defaulted name reader store :: fields) record
        (.cons item rest) =
      shape.readItems levels (position + 1) fields (store value record) rest := by
  rw [readItems, Field.defaulted]
  simp only [read, Except.map]

theorem readItems_of_refused {problem : Problem} (refused : reader levels item = .error problem) :
    shape.readItems levels position (.defaulted name reader store :: fields) record
        (.cons item rest) = .error problem := by
  rw [readItems, Field.defaulted]
  simp only [refused, Except.map]

end Items

/-! ### Fields -/

section Fields

variable {name : String}

theorem TakesField.defaulted {β : Type} {reader : Reader β} {store : β → α → α} {kind : Kind}
    (stores : ∀ {node : Node}, kind.Admits node → ∃ value, reader levels node = .ok value ∧
      ∀ {record : α} {value? : String → Option Node}, value? name = none →
        take (store value record) value? =
          take record (fun other => if other = name then some node else value? other)) :
    TakesField take levels (.defaulted name reader store) (name, kind) where
  name := rfl
  optional := rfl
  stores := by
    intro node admitted
    obtain ⟨value, read, stored⟩ := stores admitted
    exact ⟨store value, congrArg (Except.map store) read, stored⟩

theorem TakesField.word {wanted : String} {store : UInt64 → α → α}
    (stores : ∀ {node : Node} {value : UInt64} {record : α} {value? : String → Option Node},
      node.word? = some value → value? name = none → take (store value record) value? =
        take record (fun other => if other = name then some node else value? other)) :
    TakesField take levels (.defaulted name (Reader.word wanted) store) (name, .word) := by
  refine .defaulted fun {node} admitted => ?_
  cases admitted with
  | word spelled => exact ⟨_, Reader.word_of_word? levels wanted spelled, stores spelled⟩

theorem TakesField.limit {wanted : String} {store : Option UInt64 → α → α}
    (stores : ∀ {node : Node} {value : Option UInt64} {record : α}
      {value? : String → Option Node},
      node.limit? = some value → value? name = none → take (store value record) value? =
        take record (fun other => if other = name then some node else value? other)) :
    TakesField take levels (.defaulted name (Reader.word wanted).optional store)
      (name, .limit) := by
  refine .defaulted fun {node} admitted => ?_
  cases admitted with
  | limit spelled =>
    exact ⟨_, Reader.optionalWord_of_limit? levels wanted spelled, stores spelled⟩

theorem TakesField.text {store : String → α → α}
    (stores : ∀ {node : Node} {value : String} {record : α} {value? : String → Option Node},
      node.text? = some value → value? name = none → take (store value record) value? =
        take record (fun other => if other = name then some node else value? other)) :
    TakesField take levels (.defaulted name Reader.text store) (name, .text) := by
  refine .defaulted fun {node} admitted => ?_
  cases admitted with
  | text spelled => exact ⟨_, Reader.text_of_text? levels spelled, stores spelled⟩

theorem TakesField.boolean {store : Bool → α → α}
    (stores : ∀ {node : Node} {value : Bool} {record : α} {value? : String → Option Node},
      node.boolean? = some value → value? name = none → take (store value record) value? =
        take record (fun other => if other = name then some node else value? other)) :
    TakesField take levels (.defaulted name Reader.boolean store) (name, .boolean) := by
  refine .defaulted fun {node} admitted => ?_
  cases admitted with
  | boolean spelled => exact ⟨_, Reader.boolean_of_boolean? levels spelled, stores spelled⟩

/-- A record within a record is built up from its own blank. -/
theorem TakesField.record {β : Type} {inner : Shape β} {takeInner : β → (String → Option Node) → β}
    {store : β → α → α} (takes : inner.Takes levels kinds takeInner)
    (stores : ∀ {node : Node} {record : α} {value? : String → Option Node}, value? name = none →
      take (store (takeInner inner.blank fun key => node.at? [key]) record) value? =
        take record (fun other => if other = name then some node else value? other)) :
    TakesField take (levels + 1) (.defaulted name inner.read store) (name, .record kinds) :=
  .defaulted fun admitted => ⟨_, takes.read admitted, stores⟩

end Fields

end Shape

end Inflight.Json
