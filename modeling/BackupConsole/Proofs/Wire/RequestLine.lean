import BackupConsole.Proofs.Text.OneLine
import BackupConsole.Wire.Request

/-!
# Request lines

A request is written without quotes, so its line says what the request says only as long as names,
keys and values are bare: a space in a value begins another argument, and a line feed another line.
-/

set_option autoImplicit false

namespace BackupConsole

namespace Text

def Bare (text : String) : Prop := ' ' ∉ text.toList ∧ OneLine text

instance (text : String) : Decidable (Bare text) := inferInstanceAs (Decidable (_ ∧ _))

theorem bare_of_dark {text : String} (dark : ∀ c ∈ text.toList, isBlank c = false) : Bare text :=
  ⟨fun mem => absurd (dark ' ' mem) (by decide), oneLine_of_dark text dark⟩

section

variable {c : Char} {s : List Char}

theorem pieces_of_not_mem (absent : c ∉ s) : pieces c s = [s] := by
  induction s with
  | nil => rfl
  | cons x s ih =>
    obtain ⟨ne, absent⟩ : c ≠ x ∧ c ∉ s := by simpa using absent
    rw [pieces, if_neg (Ne.symm ne), ih absent]

theorem pieces_append_cons (absent : c ∉ s) (rest : List Char) :
    pieces c (s ++ c :: rest) = s :: pieces c rest := by
  induction s with
  | nil => exact if_pos rfl
  | cons x s ih =>
    obtain ⟨ne, absent⟩ : c ≠ x ∧ c ∉ s := by simpa using absent
    rw [List.cons_append, pieces, if_neg (Ne.symm ne), ih absent]

theorem pieces_intercalate {sep : String} (single : sep.toList = [c]) {parts : List String}
    (nonempty : parts ≠ []) (absent : ∀ part ∈ parts, c ∉ part.toList) :
    pieces c (sep.intercalate parts).toList = parts.map String.toList := by
  induction parts with
  | nil => exact absurd rfl nonempty
  | cons part parts ih =>
    obtain ⟨first, absent⟩ := List.forall_mem_cons.mp absent
    cases parts with
    | nil => exact pieces_of_not_mem (by simpa [String.intercalate_singleton] using first)
    | cons next parts =>
      rw [String.intercalate_cons_cons, String.toList_append, String.toList_append, single,
        List.append_assoc, List.singleton_append, pieces_append_cons first,
        ih (List.cons_ne_nil _ _) absent]
      rfl

theorem not_mem_of_mem_pieces {part : List Char} (mem : part ∈ pieces c s) : c ∉ part := by
  induction s generalizing part with
  | nil =>
    obtain rfl := List.mem_singleton.mp mem
    exact List.not_mem_nil
  | cons x s ih =>
    rw [pieces] at mem
    split at mem
    · rcases List.mem_cons.mp mem with rfl | mem
      · exact List.not_mem_nil
      · exact ih mem
    · rename_i ne
      cases parts : pieces c s with
      | nil => exact absurd parts (pieces_ne_nil c s)
      | cons first others =>
        rw [parts] at mem ih
        rcases List.mem_cons.mp mem with rfl | mem
        · rw [List.mem_cons, not_or]
          exact ⟨Ne.symm ne, ih (List.mem_cons_self ..)⟩
        · exact ih (List.mem_cons_of_mem _ mem)

theorem pieces_flatMap {first : List Char} {others : List (List Char)} (absent : c ∉ first)
    (clean : ∀ part ∈ others, c ∉ part) :
    pieces c (first ++ others.flatMap fun part => c :: part) = first :: others := by
  induction others generalizing first with
  | nil => rw [List.flatMap_nil, List.append_nil, pieces_of_not_mem absent]
  | cons part others ih =>
    obtain ⟨next, clean⟩ := List.forall_mem_cons.mp clean
    rw [List.flatMap_cons, List.cons_append, pieces_append_cons absent, ih next clean]

end

theorem oneLine_of_ended {text : String} (ended : Ended (text ++ "\n")) : OneLine text := by
  obtain ⟨front, single, same⟩ := ended
  have chars := congrArg String.toList same
  rw [String.toList_append, String.toList_append] at chars
  rw [OneLine, List.append_cancel_right chars]
  exact single

end Text

namespace Wire.Request

open Text

def token (arg : String × String) : List Char := arg.1.toList ++ '=' :: arg.2.toList

def tokens (r : Request) : List (List Char) := r.name.toList :: r.args.map token

def front (r : Request) (id : UInt64) : String := toString id.toNat ++ " " ++ r.text

theorem toList_text (r : Request) :
    r.text.toList = r.name.toList ++ (r.args.map token).flatMap fun part => ' ' :: part := by
  obtain ⟨name, args⟩ := r
  simp only [text]
  induction args generalizing name with
  | nil => simp
  | cons arg args ih =>
    rw [List.foldl_cons, ih, List.map_cons, List.flatMap_cons]
    simp [token]

theorem toList_front (r : Request) (id : UInt64) :
    (r.front id).toList = (toString id.toNat).toList ++ r.tokens.flatMap fun part => ' ' :: part := by
  rw [front, String.toList_append, String.toList_append, toList_text, tokens, List.flatMap_cons]
  simp

theorem dropLast_line (r : Request) (id : UInt64) :
    (r.line id).toList.dropLast = (r.front id).toList := by
  rw [line, ← front, String.toList_append]
  exact List.dropLast_concat

/-- The line of the request is one line, on which the tokens are the number, the name and one for each
argument, and from these the arguments can be read again. -/
structure Intact (r : Request) (id : UInt64) : Prop where
  ended : Ended (r.line id)
  split : pieces ' ' (r.line id).toList.dropLast =
    (toString id.toNat).toList :: r.name.toList :: r.args.map token
  recovered : (r.args.map token).map (cut '=') =
    r.args.map fun arg => (arg.1.toList, some arg.2.toList)

/-- All of the request but the values of its arguments can stand on a line. -/
structure Plain (r : Request) : Prop where
  name : Bare r.name
  keys : ∀ arg ∈ r.args, Bare arg.1 ∧ '=' ∉ arg.1.toList

section

variable {r : Request} (id : UInt64)

theorem Intact.bare (intact : r.Intact id) : ∀ arg ∈ r.args, Bare arg.2 := by
  intro arg mem
  have listed : token arg ∈ r.tokens := List.mem_cons_of_mem _ (List.mem_map_of_mem mem)
  have value {c : Char} (absent : c ∉ token arg) : c ∉ arg.2.toList := fun found =>
    absent (List.mem_append_right _ (List.mem_cons_of_mem _ found))
  constructor
  · have part : token arg ∈ pieces ' ' (r.line id).toList.dropLast := by
      rw [intact.split]
      exact List.mem_cons_of_mem _ listed
    exact value (not_mem_of_mem_pieces part)
  · have single : '\n' ∉ (r.front id).toList := oneLine_of_ended intact.ended
    rw [toList_front] at single
    refine value fun found => single (List.mem_append_right _ ?_)
    exact List.mem_flatMap.mpr ⟨token arg, listed, List.mem_cons_of_mem _ found⟩

theorem Plain.clean (plain : r.Plain) (bare : ∀ arg ∈ r.args, Bare arg.2) :
    ∀ part ∈ r.tokens, ' ' ∉ part ∧ '\n' ∉ part := by
  intro part mem
  rcases List.mem_cons.mp mem with rfl | mem
  · exact plain.name
  · obtain ⟨arg, given, rfl⟩ := List.mem_map.mp mem
    obtain ⟨⟨keySpace, keyFeed⟩, _⟩ := plain.keys arg given
    obtain ⟨valueSpace, valueFeed⟩ := bare arg given
    rw [OneLine] at keyFeed valueFeed
    simp [token, keySpace, keyFeed, valueSpace, valueFeed]

theorem Plain.intact (plain : r.Plain) (bare : ∀ arg ∈ r.args, Bare arg.2) : r.Intact id := by
  have number : Bare (toString id.toNat) := bare_of_dark (dark_toString id.toNat)
  have clean := plain.clean bare
  refine ⟨⟨r.front id, ?_, rfl⟩, ?_, ?_⟩
  · rw [OneLine, toList_front, List.mem_append, not_or]
    refine ⟨number.2, fun found => ?_⟩
    obtain ⟨part, mem, found⟩ := List.mem_flatMap.mp found
    rcases List.mem_cons.mp found with impossible | found
    · cases impossible
    · exact (clean part mem).2 found
  · rw [dropLast_line, toList_front]
    exact pieces_flatMap number.1 fun part mem => (clean part mem).1
  · rw [List.map_map]
    exact List.map_congr_left fun arg mem => cut_append_cons (plain.keys arg mem).2 _

theorem Plain.intact_iff (plain : r.Plain) : r.Intact id ↔ ∀ arg ∈ r.args, Bare arg.2 :=
  ⟨fun intact => intact.bare id, fun bare => plain.intact id bare⟩

end

end Wire.Request

end BackupConsole
