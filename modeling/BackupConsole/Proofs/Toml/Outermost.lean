import BackupConsole.Toml.Document

set_option autoImplicit false

namespace BackupConsole.Toml

open Config

/-! ## Values -/

def Signed (v : Value) : Prop := ∀ n, v ≠ .unsigned n

variable {s rest : List Char} {v : Value}

theorem signed_radixNumber? {base : Nat} (read : radixNumber? base s = some (v, rest)) :
    Signed v := by
  obtain ⟨⟨digits, after⟩, _, read⟩ := Option.bind_eq_some_iff.mp read
  dsimp only at read
  split at read
  · cases read
    rintro n ⟨⟩
  · cases read

theorem signed_integer? (read : integer? s = some (v, rest)) : Signed v := by
  unfold integer? at read
  split at read
  · exact signed_radixNumber? read
  · exact signed_radixNumber? read
  · exact signed_radixNumber? read
  · obtain ⟨whole, _, read⟩ := Option.bind_eq_some_iff.mp read
    obtain ⟨n, _, same⟩ := Option.map_eq_some_iff.mp read
    cases same
    rintro n ⟨⟩

theorem signed_decimal? (read : decimal? s = some (v, rest)) : Signed v := by
  obtain ⟨whole, _, read⟩ := Option.bind_eq_some_iff.mp read
  obtain ⟨fractional, _, read⟩ := Option.bind_eq_some_iff.mp read
  obtain ⟨x, _, read⟩ := Option.bind_eq_some_iff.mp read
  split at read
  · cases read
  · cases read
    rintro n ⟨⟩

theorem signed_namedNumber? (read : namedNumber? s = some (v, rest)) : Signed v := by
  unfold namedNumber? at read
  dsimp only at read
  split at read
  · obtain ⟨x, _, same⟩ := Option.map_eq_some_iff.mp read
    cases same
    rintro n ⟨⟩
  · cases read

theorem signed_number? (read : number? s = some (v, rest)) : Signed v := by
  rw [number?, Option.or_eq_some_iff, Option.or_eq_some_iff] at read
  obtain (decimal | ⟨_, named⟩) | ⟨_, integer⟩ := read
  · exact signed_decimal? decimal
  · exact signed_namedNumber? named
  · exact signed_integer? integer

theorem signed_scalar? (read : scalar? s = some (v, rest)) : Signed v := by
  unfold scalar? at read
  split at read
  · cases read
  · split at read
    · obtain ⟨text, _, same⟩ := Option.map_eq_some_iff.mp read
      cases same
      rintro n ⟨⟩
    · split at read
      · cases read
        rintro n ⟨⟩
      · split at read
        · cases read
          rintro n ⟨⟩
        · split at read
          · cases read
            rintro n ⟨⟩
          · exact signed_number? read

theorem signed_value? {depth : Nat} (read : value? depth s = some (v, rest)) : Signed v := by
  cases depth with
  | zero => exact signed_scalar? read
  | succ depth =>
    unfold value? at read
    split at read
    · obtain ⟨items, _, same⟩ := Option.map_eq_some_iff.mp read
      cases same
      rintro n ⟨⟩
    · split at read
      · cases read
        rintro n ⟨⟩
      · obtain ⟨assignments, _, read⟩ := Option.bind_eq_some_iff.mp read
        obtain ⟨table, made, same⟩ := Option.map_eq_some_iff.mp read
        obtain ⟨entries, _, rfl⟩ := Option.map_eq_some_iff.mp made
        cases same
        rintro n ⟨⟩
    · exact signed_scalar? read

/-! ## The outermost table -/

/-- No number without a sign stands under a name, and no name stands twice. -/
structure Entries.Proper (entries : Entries) : Prop where
  signed : ∀ entry ∈ entries, Signed entry.2.toValue
  distinct : (entries.map Prod.fst).Nodup

namespace Entries

variable {entries new : Entries}

theorem Proper.add (proper : entries.Proper) {key : String} (fresh : entries.lookup key = none)
    {node : Node} (signed : Signed node.toValue) : Proper (entries ++ [(key, node)]) := by
  refine ⟨List.forall_mem_append.mpr ⟨proper.signed, List.forall_mem_singleton.mpr signed⟩, ?_⟩
  rw [List.map_append, List.nodup_append]
  refine ⟨proper.distinct, List.pairwise_singleton _ _, fun name here other added => ?_⟩
  obtain ⟨entry, mem, rfl⟩ := List.mem_map.mp here
  obtain rfl : other = key := List.mem_singleton.mp added
  exact (bne_iff_ne.mp (List.lookup_eq_none_iff.mp fresh entry mem)).symm

theorem Proper.replace (proper : entries.Proper) (key : String) {node : Node}
    (signed : Signed node.toValue) : Proper (Entries.replace key node entries) := by
  constructor
  · intro entry mem
    obtain ⟨old, here, rfl⟩ := List.mem_map.mp mem
    dsimp only
    split
    · exact signed
    · exact proper.signed old here
  · have names : (Entries.replace key node entries).map Prod.fst = entries.map Prod.fst :=
      List.map_map
    rw [names]
    exact proper.distinct

theorem signed_table (implicit dotted : Bool) (inner : Entries) :
    Signed (Node.table implicit dotted inner).toValue := by
  rw [Node.toValue]
  rintro n ⟨⟩

theorem signed_tables (finished : List Value) (inner : Entries) :
    Signed (Node.tables finished inner).toValue := by
  rw [Node.toValue]
  rintro n ⟨⟩

theorem Proper.update? {dotted : Bool} {change : Bool → Entries → Option Entries}
    (keeps : ∀ {isDotted : Bool} {new : Entries}, change isDotted entries = some new → new.Proper)
    (proper : entries.Proper) {path : List String} {isDotted : Bool}
    (updated : Entries.update? dotted change path isDotted entries = some new) : new.Proper := by
  cases path with
  | nil => exact keeps updated
  | cons key path =>
    unfold Entries.update? at updated
    split at updated
    · next fresh =>
      obtain ⟨inner, _, rfl⟩ := Option.map_eq_some_iff.mp updated
      exact proper.add fresh (signed_table true dotted inner)
    · cases updated
    · obtain ⟨inner, _, rfl⟩ := Option.map_eq_some_iff.mp updated
      exact proper.replace key (signed_tables _ inner)
    · split at updated
      · cases updated
      · obtain ⟨inner, _, rfl⟩ := Option.map_eq_some_iff.mp updated
        exact proper.replace key (signed_table _ _ inner)

theorem Proper.insert? (proper : entries.Proper) {path : List String} {key : String} {v : Value}
    (value : Signed v) {isDotted : Bool}
    (inserted : Entries.insert? path key v isDotted entries = some new) : new.Proper := by
  refine proper.update? ?_ inserted
  intro _ new added
  split at added
  · cases added
  · next free =>
    cases added
    have fresh : entries.lookup key = none := by
      rw [Bool.or_eq_true, not_or] at free
      exact Option.not_isSome_iff_eq_none.mp free.2
    refine proper.add fresh ?_
    rw [Node.toValue]
    exact value

theorem Proper.openTable? (proper : entries.Proper) {path : List String} {key : String}
    (opened : Entries.openTable? path key entries = some new) : new.Proper := by
  refine proper.update? ?_ opened
  intro _ new started
  split at started
  · next fresh =>
    cases started
    exact proper.add fresh (signed_table _ _ _)
  · cases started
    exact proper.replace key (signed_table _ _ _)
  · cases started

theorem Proper.openElement? (proper : entries.Proper) {path : List String} {key : String}
    (opened : Entries.openElement? path key entries = some new) : new.Proper := by
  refine proper.update? ?_ opened
  intro _ new started
  split at started
  · next fresh =>
    cases started
    exact proper.add fresh (signed_tables _ _)
  · cases started
    exact proper.replace key (signed_tables _ _)
  · cases started

end Entries

/-! ## Lines and files -/

variable {draft next : Draft}

theorem signed_assignment? {depth : Nat} {a : Assignment}
    (read : assignment? (value? depth) s = some (a, rest)) : Signed a.value := by
  obtain ⟨⟨path, key, after⟩, _, read⟩ := Option.bind_eq_some_iff.mp read
  obtain ⟨value, _, read⟩ := Option.bind_eq_some_iff.mp read
  obtain ⟨⟨v, _⟩, written, same⟩ := Option.map_eq_some_iff.mp read
  cases same
  exact signed_value? written

theorem proper_assign? (proper : draft.entries.Proper) {a : Assignment} (value : Signed a.value)
    (assigned : draft.assign? a = some next) : next.entries.Proper := by
  obtain ⟨entries, updated, rfl⟩ := Option.map_eq_some_iff.mp assigned
  exact proper.update? (fun inserted => proper.insert? value inserted) updated

theorem proper_line? (proper : draft.entries.Proper) (read : line? draft s = some (next, rest)) :
    next.entries.Proper := by
  unfold line? at read
  simp only [Option.bind_eq_bind] at read
  split at read
  · obtain ⟨⟨path, key, after⟩, _, read⟩ := Option.bind_eq_some_iff.mp read
    obtain ⟨_, _, read⟩ := Option.bind_eq_some_iff.mp read
    obtain ⟨opened, element, read⟩ := Option.bind_eq_some_iff.mp read
    obtain ⟨_, _, same⟩ := Option.map_eq_some_iff.mp read
    cases same
    obtain ⟨entries, made, rfl⟩ := Option.map_eq_some_iff.mp element
    exact proper.openElement? made
  · obtain ⟨⟨path, key, after⟩, _, read⟩ := Option.bind_eq_some_iff.mp read
    obtain ⟨_, _, read⟩ := Option.bind_eq_some_iff.mp read
    obtain ⟨opened, table, read⟩ := Option.bind_eq_some_iff.mp read
    obtain ⟨_, _, same⟩ := Option.map_eq_some_iff.mp read
    cases same
    obtain ⟨entries, made, rfl⟩ := Option.map_eq_some_iff.mp table
    exact proper.openTable? made
  · split at read
    · obtain ⟨_, _, same⟩ := Option.map_eq_some_iff.mp read
      cases same
      exact proper
    · obtain ⟨⟨a, after⟩, assignment, read⟩ := Option.bind_eq_some_iff.mp read
      obtain ⟨assigned, made, read⟩ := Option.bind_eq_some_iff.mp read
      obtain ⟨_, _, same⟩ := Option.map_eq_some_iff.mp read
      cases same
      exact proper_assign? proper (signed_assignment? assignment) made

theorem proper_lines? {limit : Nat} (proper : draft.entries.Proper)
    (read : lines? limit draft s = some next) : next.entries.Proper := by
  induction limit generalizing draft s with
  | zero =>
    unfold lines? at read
    split at read
    · cases read
      exact proper
    · cases read
  | succ limit ih =>
    unfold lines? at read
    split at read
    · cases read
      exact proper
    · obtain ⟨⟨after, rest⟩, line, read⟩ := Option.bind_eq_some_iff.mp read
      exact ih (proper_line? proper line) read

theorem proper_of_read? {text : String} {given : Layer} (read : read? text = some given) :
    (∀ entry ∈ given, Signed entry.2) ∧ (given.map Prod.fst).Nodup := by
  obtain ⟨draft, lines, rfl⟩ := Option.map_eq_some_iff.mp read
  have empty : Entries.Proper (Draft.entries {}) := ⟨List.forall_mem_nil _, List.nodup_nil⟩
  obtain ⟨signed, distinct⟩ := proper_lines? empty lines
  rw [entryValues_eq_map]
  refine ⟨List.forall_mem_map.mpr signed, ?_⟩
  rw [List.map_map]
  exact distinct

end BackupConsole.Toml
