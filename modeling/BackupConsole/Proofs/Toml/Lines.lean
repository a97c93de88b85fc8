import BackupConsole.Proofs.Config.Laws
import BackupConsole.Proofs.Toml.Numeral
import BackupConsole.Proofs.Toml.Quoted
import BackupConsole.Toml.Document

set_option autoImplicit false

namespace BackupConsole.Toml

open Config

/-! ## Values up to the end of their line -/

theorem isSpace_of_class {p : Char → Bool} {c : Char} (here : p c = true) (space : p ' ' = false)
    (tab : p '\t' = false) : isSpace c = false := by
  simp [isSpace, ne_of_class here space, ne_of_class here tab]

/-- This is read as the value, whatever lines follow. -/
structure Denotes (text : List Char) (v : Value) : Prop where
  start : ∃ c more, text = c :: more ∧ isSpace c = false ∧ c ≠ '[' ∧ c ≠ '\x7b'
  scalar : ∀ rest, scalar? (text ++ '\n' :: rest) = some (v, '\n' :: rest)

theorem denotes_quoted (s : List Char) : Denotes (quoted s) (.text (String.ofList s)) := by
  have quote : ∃ c more, quoted s = c :: more ∧ (c = '\x22' ∨ c = '\x27') := by
    unfold quoted
    dsimp only
    split
    · exact ⟨_, _, rfl, .inl rfl⟩
    · exact ⟨_, _, rfl, .inr rfl⟩
    · exact ⟨_, _, rfl, .inl rfl⟩
    · exact ⟨_, _, rfl, .inr rfl⟩
  obtain ⟨c, more, written, mark⟩ := quote
  refine ⟨⟨c, more, written, ?_⟩, fun rest => ?_⟩
  · obtain rfl | rfl := mark <;> decide
  · have read := quotedText_quoted s ('\n' :: rest) (by simp) (by simp)
    rw [written, List.cons_append] at read ⊢
    rw [scalar?, if_pos (by simpa using mark), read, Option.map_some]

theorem denotes_truth (b : Bool) :
    Denotes (if b then "true" else "false").toList (.boolean b) := by
  cases b with
  | true => exact ⟨⟨'t', _, rfl, by decide, by decide, by decide⟩, fun _ => rfl⟩
  | false => exact ⟨⟨'f', _, rfl, by decide, by decide, by decide⟩, fun _ => rfl⟩

theorem scalar?_of_isDigit {c : Char} (digit : c.isDigit = true) {s : List Char}
    (undated : moment? (c :: s) = none) : scalar? (c :: s) = number? (c :: s) := by
  have unquoted : ¬ (c = '\x22' || c = '\x27') = true := by
    simp [ne_of_class digit (d := '\x22') (by decide), ne_of_class digit (d := '\x27') (by decide)]
  have untrue : ¬ "true".toList.isPrefixOf (c :: s) = true :=
    not_isPrefixOf_of_class digit (by decide) _ s
  have unfalse : ¬ "false".toList.isPrefixOf (c :: s) = true :=
    not_isPrefixOf_of_class digit (by decide) _ s
  rw [scalar?, if_neg unquoted, if_neg untrue, if_neg unfalse, undated]

theorem denotes_toDigits {n : Nat} (inside : n < Nat.pow 2 63) :
    Denotes (Nat.toDigits 10 n) (.signed (Int64.ofNat n)) := by
  obtain ⟨c, digits, written, all, _⟩ := exists_toDigits n
  have digit : c.isDigit = true := all c List.mem_cons_self
  refine ⟨⟨c, digits, written, isSpace_of_class digit rfl rfl, ne_of_class digit (by decide),
    ne_of_class digit (by decide)⟩, fun rest => ?_⟩
  have line : DigitLine (c :: digits ++ '\n' :: rest) := ⟨c :: digits, rest, rfl, all⟩
  have number := number?_toDigits inside rest
  rw [written] at number ⊢
  exact (scalar?_of_isDigit digit line.moment?).trans number

theorem Denotes.value? {text : List Char} {v : Value} (denotes : Denotes text v) (depth : Nat)
    (rest : List Char) : value? depth (text ++ '\n' :: rest) = some (v, '\n' :: rest) := by
  have scalar := denotes.scalar rest
  obtain ⟨c, more, rfl, _, list, table⟩ := denotes.start
  cases depth with
  | zero => exact scalar
  | succ depth =>
    unfold Toml.value?
    split
    · next same => exact absurd (List.cons.inj same).1 list
    · next same => exact absurd (List.cons.inj same).1 table
    · exact scalar

theorem Denotes.skipSpaces {text : List Char} {v : Value} (denotes : Denotes text v)
    (rest : List Char) : skipSpaces (text ++ rest) = text ++ rest := by
  obtain ⟨c, more, rfl, space, _⟩ := denotes.start
  rw [Toml.skipSpaces, List.cons_append, List.dropWhile_cons_of_neg (by simp [space])]

/-! ## Lines -/

structure Line where
  key : String
  text : List Char
  value : Value
  named : IsName key
  denotes : Denotes text value

namespace Line

def written (line : Line) : List Char := line.key.toList ++ " = ".toList ++ line.text ++ ['\n']

def entry (line : Line) : String × Value := (line.key, line.value)

def node (line : Line) : String × Node := (line.key, .value line.value)

variable (line : Line)

theorem exists_key : ∃ c more, line.key.toList = c :: more ∧ isNameChar c = true := by
  have named := line.named
  cases key : line.key.toList with
  | nil => exact absurd key named.nonempty
  | cons c more => exact ⟨c, more, rfl, named.plain c (key ▸ List.mem_cons_self)⟩

theorem exists_written (rest : List Char) :
    ∃ c more, line.written ++ rest = c :: more ∧ isNameChar c = true := by
  obtain ⟨c, more, key, start⟩ := line.exists_key
  simp only [written, key, List.cons_append]
  exact ⟨c, _, rfl, start⟩

theorem simpleKey?_key (s : List Char) :
    simpleKey? (line.key.toList ++ ' ' :: s) = some (line.key, ' ' :: s) := by
  obtain ⟨c, more, key, start⟩ := line.exists_key
  have run : (line.key.toList ++ ' ' :: s).takeWhile isNameChar = line.key.toList := by
    rw [List.takeWhile_append_of_pos line.named.plain, List.takeWhile_cons_of_neg (by decide),
      List.append_nil]
  have after : (line.key.toList ++ ' ' :: s).dropWhile isNameChar = ' ' :: s := by
    rw [List.dropWhile_append_of_pos line.named.plain, List.dropWhile_cons_of_neg (by decide)]
  have present : line.key.toList.isEmpty = false := by rw [key, List.isEmpty_cons]
  unfold simpleKey?
  split
  · next same =>
    rw [key] at same
    exact absurd (List.cons.inj same).1 (ne_of_class start (by decide))
  · next same =>
    rw [key] at same
    exact absurd (List.cons.inj same).1 (ne_of_class start (by decide))
  · dsimp only
    rw [run, after, present, if_neg Bool.false_ne_true, String.ofList_toList]

theorem skipSpaces_written (rest : List Char) :
    skipSpaces (line.written ++ rest) = line.written ++ rest := by
  obtain ⟨c, more, whole, start⟩ := line.exists_written rest
  have dark : isSpace c = false := isSpace_of_class start rfl rfl
  rw [whole, skipSpaces, List.dropWhile_cons_of_neg (by simp [dark])]

theorem keyPath?_written (limit : Nat) (rest : List Char) :
    keyPath? (limit + 1) (line.written ++ rest) =
      some ([], line.key, '=' :: ' ' :: (line.text ++ '\n' :: rest)) := by
  have parts : line.written ++ rest =
      line.key.toList ++ ' ' :: '=' :: ' ' :: (line.text ++ '\n' :: rest) := by
    simp [written]
  rw [keyPath?, line.skipSpaces_written, parts, line.simpleKey?_key]
  rfl

theorem assignment?_written (rest : List Char) :
    assignment? (value? depthLimit) (line.written ++ rest) =
      some (⟨[], line.key, line.value⟩, '\n' :: rest) := by
  have value : value? depthLimit (skipSpaces (' ' :: (line.text ++ '\n' :: rest))) =
      some (line.value, '\n' :: rest) := by
    have space : skipSpaces (' ' :: (line.text ++ '\n' :: rest)) = line.text ++ '\n' :: rest :=
      line.denotes.skipSpaces ('\n' :: rest)
    rw [space, line.denotes.value?]
  rw [assignment?, depthLimit, line.keyPath?_written]
  simp only [Option.bind_some, after?, if_true]
  rw [← depthLimit, value, Option.map_some]

theorem assign?_fresh {entries : Entries} (fresh : entries.lookup line.key = none) :
    Draft.assign? ⟨entries, []⟩ ⟨[], line.key, line.value⟩ = some ⟨entries ++ [line.node], []⟩ := by
  have added : Entries.insert? [] line.key line.value false entries =
      some (entries ++ [line.node]) := by
    simp [Entries.insert?, Entries.update?, fresh, node]
  rw [Draft.assign?, Entries.update?, added, Option.map_some]

theorem line?_written {entries : Entries} (fresh : entries.lookup line.key = none)
    (rest : List Char) :
    line? ⟨entries, []⟩ (line.written ++ rest) = some (⟨entries ++ [line.node], []⟩, rest) := by
  obtain ⟨c, more, whole, start⟩ := line.exists_written rest
  have filled :
      ((line.written ++ rest).head?.any fun c => c = '#' || c = '\n' || c = '\r') = false := by
    rw [whole]
    simp [ne_of_class start (d := '#') (by decide), ne_of_class start (d := '\n') (by decide),
      ne_of_class start (d := '\r') (by decide)]
  unfold line?
  split
  · next same =>
    rw [whole] at same
    exact absurd (List.cons.inj same).1 (ne_of_class start (by decide))
  · next same =>
    rw [whole] at same
    exact absurd (List.cons.inj same).1 (ne_of_class start (by decide))
  · rw [filled, if_neg Bool.false_ne_true, line.assignment?_written]
    simp only [Option.bind_eq_bind, Option.bind_some]
    rw [line.assign?_fresh fresh]
    rfl

end Line

/-! ## Files -/

theorem lines?_written (lines : List Line) (entries : Entries)
    (distinct : (entries.map Prod.fst ++ lines.map Line.key).Nodup) {limit : Nat}
    (enough : lines.length ≤ limit) :
    lines? limit ⟨entries, []⟩ (lines.flatMap Line.written) =
      some ⟨entries ++ lines.map Line.node, []⟩ := by
  induction lines generalizing entries limit with
  | nil =>
    rw [List.flatMap_nil, List.map_nil, List.append_nil]
    cases limit <;> rfl
  | cons line lines ih =>
    obtain _ | limit := limit
    · exact absurd enough (Nat.not_succ_le_zero _)
    · have fresh : entries.lookup line.key = none := by
        have unused := (List.nodup_append.mp distinct).2.2
        refine List.lookup_eq_none_iff.mpr fun entry mem => bne_iff_ne.mpr fun same => ?_
        exact unused entry.1 (List.mem_map_of_mem mem) line.key List.mem_cons_self same.symm
      have later : ((entries ++ [line.node]).map Prod.fst ++ lines.map Line.key).Nodup := by
        simpa [Line.node] using distinct
      rw [List.flatMap_cons, lines?, line.skipSpaces_written]
      split
      · next empty =>
        obtain ⟨c, more, whole, _⟩ := line.exists_written (lines.flatMap Line.written)
        exact absurd (whole.symm.trans empty) (List.cons_ne_nil c more)
      · rw [line.line?_written fresh, Option.bind_some]
        dsimp only
        rw [ih _ later (Nat.le_of_succ_le_succ enough), List.map_cons, List.append_assoc]
        rfl

theorem length_le_written (lines : List Line) :
    lines.length ≤ (lines.flatMap Line.written).length := by
  induction lines with
  | nil => exact Nat.le_refl 0
  | cons line lines ih =>
    simp only [List.flatMap_cons, List.length_append, List.length_cons, Line.written]
    omega

theorem entryValues_nodes (lines : List Line) :
    entryValues (lines.map Line.node) = lines.map Line.entry := by
  rw [entryValues_eq_map, List.map_map]
  rfl

theorem read?_written (lines : List Line) (distinct : (lines.map Line.key).Nodup) :
    read? (String.ofList (lines.flatMap Line.written)) = some (lines.map Line.entry) := by
  have unmarked : (lines.flatMap Line.written).head? ≠ some '\uFEFF' := by
    cases lines with
    | nil => exact nofun
    | cons line lines =>
      obtain ⟨c, more, whole, start⟩ := line.exists_written (lines.flatMap Line.written)
      rw [List.flatMap_cons, whole, List.head?_cons]
      exact fun mark => ne_of_class start (by decide) (Option.some.inj mark)
  have drafted : lines? (lines.flatMap Line.written).length {} (lines.flatMap Line.written) =
      some ⟨lines.map Line.node, []⟩ :=
    lines?_written lines [] distinct (length_le_written lines)
  rw [read?, String.toList_ofList, if_neg unmarked, drafted, Option.map_some, entryValues_nodes]

/-! ## What is printed -/

theorem isPrintable_iff (v : Value) : isPrintable v = true ↔ v.IsPlain := by
  cases v with
  | text _ | boolean _ => exact ⟨fun _ => trivial, fun _ => rfl⟩
  | unsigned n => exact decide_eq_true_iff
  | _ => exact ⟨Bool.false_ne_true, False.elim⟩

theorem denotes_printedValue {v : Value} (plain : v.IsPlain) : Denotes (printedValue v) v.normal := by
  cases v with
  | text s =>
    have read := denotes_quoted s.toList
    rwa [String.ofList_toList] at read
  | boolean b => exact denotes_truth b
  | unsigned n =>
    have inside : n.toNat < Nat.pow 2 63 := plain
    rw [Value.normal, if_pos inside]
    exact denotes_toDigits inside
  | _ => exact plain.elim

theorem exists_lines {layer : Layer}
    (plain : ∀ entry ∈ layer, IsName entry.1 ∧ entry.2.IsPlain) :
    ∃ lines : List Line,
      (layer.flatMap fun (key, v) => printedLine key v) = lines.flatMap Line.written ∧
        lines.map Line.entry = layer.map fun (key, v) => (key, v.normal) := by
  induction layer with
  | nil => exact ⟨[], rfl, rfl⟩
  | cons entry layer ih =>
    obtain ⟨first, others⟩ := List.forall_mem_cons.mp plain
    obtain ⟨lines, written, entries⟩ := ih others
    refine ⟨⟨entry.1, printedValue entry.2, entry.2.normal, first.1,
      denotes_printedValue first.2⟩ :: lines, ?_, ?_⟩
    · rw [List.flatMap_cons, List.flatMap_cons, written]
      rfl
    · rw [List.map_cons, List.map_cons, entries]
      rfl

theorem lookup_map_normal (layer : Layer) (key : String) :
    (layer.map fun (name, v) => (name, v.normal)).lookup key =
      (layer.lookup key).map Value.normal := by
  induction layer with
  | nil => rfl
  | cons entry layer ih =>
    rw [List.map_cons, List.lookup_cons, List.lookup_cons, ih]
    split <;> rfl

theorem read?_print? {layer : Layer} (distinct : (layer.map Prod.fst).Nodup)
    (plain : ∀ entry ∈ layer, IsName entry.1 ∧ entry.2.IsPlain) :
    ∃ text given, print? layer = some text ∧ read? text = some given ∧
      ∀ key, given.lookup key = (layer.lookup key).map Value.normal := by
  obtain ⟨lines, written, entries⟩ := exists_lines plain
  have printable : layer.all (fun entry => isPrintable entry.2) = true :=
    List.all_eq_true.mpr fun entry mem => (isPrintable_iff entry.2).mpr (plain entry mem).2
  have keys : lines.map Line.key = layer.map Prod.fst := by
    have names := congrArg (List.map Prod.fst) entries
    rwa [List.map_map, List.map_map] at names
  refine ⟨_, _, if_pos printable, written ▸ read?_written lines (keys ▸ distinct), fun key => ?_⟩
  rw [entries, lookup_map_normal]

theorem print?_eq_none {layer : Layer} {key : String} {n : UInt64}
    (mem : (key, .unsigned n) ∈ layer) (large : Nat.pow 2 63 ≤ n.toNat) : print? layer = none := by
  refine if_neg fun printable => ?_
  have plain := (isPrintable_iff _).mp (List.all_eq_true.mp printable _ mem)
  exact absurd plain (Nat.not_lt.mpr large)

end BackupConsole.Toml
