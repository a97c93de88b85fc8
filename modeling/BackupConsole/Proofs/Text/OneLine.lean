import BackupConsole.Proofs.Text.ByteOrder
import BackupConsole.Proofs.Text.Trimming
import BackupConsole.Text.Pieces

set_option autoImplicit false

namespace BackupConsole.Text

def OneLine (text : String) : Prop := '\n' ∉ text.toList

instance (text : String) : Decidable (OneLine text) := inferInstanceAs (Decidable (¬_))

theorem oneLine_of_dark (v : String) (dark : ∀ c ∈ v.toList, isBlank c = false) : OneLine v := by
  intro mem
  exact absurd (dark '\n' mem) (by decide)

theorem oneLine_toString (n : Nat) : OneLine (toString n) := oneLine_of_dark _ (dark_toString n)

theorem oneLine_append_iff {s t : String} : OneLine (s ++ t) ↔ OneLine s ∧ OneLine t := by
  simp [OneLine]

theorem OneLine.append {s t : String} (first : OneLine s) (second : OneLine t) : OneLine (s ++ t) :=
  oneLine_append_iff.mpr ⟨first, second⟩

theorem forall_mem_intercalate {P : Char → Prop} {sep : String} (between : ∀ c ∈ sep.toList, P c)
    {parts : List String} (within : ∀ part ∈ parts, ∀ c ∈ part.toList, P c) :
    ∀ c ∈ (sep.intercalate parts).toList, P c := by
  induction parts with
  | nil => simp
  | cons part parts ih =>
    obtain ⟨first, within⟩ := List.forall_mem_cons.mp within
    cases parts with
    | nil => simpa [String.intercalate_singleton] using first
    | cons next parts =>
      rw [String.intercalate_cons_cons, String.toList_append, String.toList_append,
        List.forall_mem_append, List.forall_mem_append]
      exact ⟨⟨first, between⟩, ih within⟩

theorem oneLine_intercalate {sep : String} (single : OneLine sep) {parts : List String}
    (lines : ∀ part ∈ parts, OneLine part) : OneLine (sep.intercalate parts) := by
  have other {text : String} (line : OneLine text) : ∀ c ∈ text.toList, c ≠ '\n' :=
    fun _ mem feed => line (feed ▸ mem)
  exact fun mem => forall_mem_intercalate (other single) (fun part listed => other (lines part listed))
    '\n' mem rfl

section

variable {α : Type} [DecidableEq α] {feed : α}

theorem splitAfter_append_cons {front : List α} (absent : feed ∉ front) (rest : List α) :
    splitAfter feed (front ++ feed :: rest) = (front ++ [feed]) :: splitAfter feed rest := by
  induction front with
  | nil => exact if_pos rfl
  | cons x front ih =>
    obtain ⟨ne, absent⟩ : feed ≠ x ∧ feed ∉ front := by simpa using absent
    rw [List.cons_append, splitAfter, if_neg (Ne.symm ne), ih absent]
    rfl

end

theorem eq_of_feed_mem_utf8EncodeChar {c : Char} (feed : 10 ∈ String.utf8EncodeChar c) :
    c = '\n' := by
  have code : c.val.toNat = 10 := by
    unfold String.utf8EncodeChar at feed
    generalize c.val.toNat = v at *
    dsimp only at feed
    -- every byte of a longer code is at least 128
    split_ifs at feed <;>
      simp only [List.mem_cons, List.not_mem_nil, or_false, ← UInt8.toNat_inj, UInt8.toNat_ofNat',
        UInt8.toNat_ofNat, Nat.reducePow] at feed <;>
      omega
  exact Char.ext (UInt32.toNat_inj.mp code)

theorem feed_not_mem_utf8Bytes {text : String} (single : OneLine text) : 10 ∉ utf8Bytes text := by
  rw [utf8Bytes_eq_flatMap, List.mem_flatMap]
  rintro ⟨c, mem, feed⟩
  exact single (eq_of_feed_mem_utf8EncodeChar feed ▸ mem)

theorem utf8Bytes_append (s t : String) : utf8Bytes (s ++ t) = utf8Bytes s ++ utf8Bytes t := by
  simp [utf8Bytes]

theorem fromUTF8?_utf8Bytes (text : String) :
    String.fromUTF8? ⟨(utf8Bytes text).toArray⟩ = some text := by
  have bytes : ByteArray.mk (utf8Bytes text).toArray = text.toByteArray := by simp [utf8Bytes]
  rw [bytes, String.fromUTF8?, dif_pos text.isValidUTF8]
  rfl

def Ended (text : String) : Prop := ∃ front, OneLine front ∧ text = front ++ "\n"

theorem Ended.splitAfter_toList {text : String} (ended : Ended text) :
    splitAfter '\n' text.toList = [text.toList] := by
  obtain ⟨front, single, rfl⟩ := ended
  have whole : (front ++ "\n").toList = front.toList ++ ['\n'] := by simp
  rw [whole, splitAfter_append_cons single]
  rfl

theorem splitAfter_flatMap_utf8Bytes {texts : List String} (ended : ∀ text ∈ texts, Ended text) :
    splitAfter 10 (texts.flatMap utf8Bytes) = texts.map utf8Bytes := by
  induction texts with
  | nil => rfl
  | cons text texts ih =>
    obtain ⟨⟨front, single, rfl⟩, others⟩ := List.forall_mem_cons.mp ended
    have feed : utf8Bytes "\n" = [10] := by decide
    rw [List.flatMap_cons, List.map_cons, utf8Bytes_append, feed, List.append_assoc,
      List.singleton_append, splitAfter_append_cons (feed_not_mem_utf8Bytes single), ih others]

end BackupConsole.Text
