set_option autoImplicit false

namespace BackupConsole.Text

def cut (c : Char) : List Char → List Char × Option (List Char)
  | [] => ([], none)
  | x :: s =>
    if x = c then ([], some s)
    else
      let (head, rest) := cut c s
      (x :: head, rest)

def pieces (c : Char) : List Char → List (List Char)
  | [] => [[]]
  | x :: s =>
    if x = c then [] :: pieces c s
    else
      match pieces c s with
      | [] => [[x]]
      | part :: parts => (x :: part) :: parts

def joined (sep : List Char) : List (List Char) → List Char
  | [] => []
  | [part] => part
  | part :: parts => part ++ sep ++ joined sep parts

/-- The lines of a text: a line feed ends a line, and a carriage return before it is dropped. -/
def lines (s : List Char) : List (List Char) :=
  let parts := pieces '\n' s
  let ended := parts.dropLast.map fun line =>
    if line.getLast? = some '\r' then line.dropLast else line
  ended ++ (parts.getLast?.filter (!·.isEmpty)).toList

/-- The parts that end with `feed`, each with its end; what follows the last end is a part too. -/
def splitAfter {α : Type} [DecidableEq α] (feed : α) : List α → List (List α)
  | [] => []
  | x :: s =>
    if x = feed then [x] :: splitAfter feed s
    else
      match splitAfter feed s with
      | [] => [[x]]
      | part :: parts => (x :: part) :: parts

theorem flatten_splitAfter {α : Type} [DecidableEq α] (feed : α) (s : List α) :
    (splitAfter feed s).flatten = s := by
  induction s with
  | nil => rfl
  | cons x s ih =>
    unfold splitAfter
    split
    · simp [ih]
    · split
      · next none => simp [none] at ih; simp [← ih]
      · next part parts some => simp [some] at ih; simp [ih]

theorem cut_of_not_mem {c : Char} {s : List Char} (absent : c ∉ s) : cut c s = (s, none) := by
  induction s with
  | nil => rfl
  | cons x s ih =>
    obtain ⟨ne, absent⟩ : c ≠ x ∧ c ∉ s := by simpa using absent
    rw [cut, if_neg (Ne.symm ne), ih absent]

theorem cut_append_cons {c : Char} {s : List Char} (absent : c ∉ s) (rest : List Char) :
    cut c (s ++ c :: rest) = (s, some rest) := by
  induction s with
  | nil => exact if_pos rfl
  | cons x s ih =>
    obtain ⟨ne, absent⟩ : c ≠ x ∧ c ∉ s := by simpa using absent
    rw [List.cons_append, cut, if_neg (Ne.symm ne), ih absent]

theorem pieces_ne_nil (c : Char) (s : List Char) : pieces c s ≠ [] := by
  cases s with
  | nil => simp [pieces]
  | cons x s =>
    simp only [pieces]
    split
    · simp
    · split <;> simp

end BackupConsole.Text
