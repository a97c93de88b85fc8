set_option autoImplicit false

namespace BackupConsole.Number

def readDigits (s : List Char) : Option Nat :=
  if s.isEmpty || !s.all Char.isDigit then none else some (Nat.ofDigitChars 10 s 0)

def readNat (s : List Char) : Option Nat :=
  match s with
  | '+' :: digits => readDigits digits
  | digits => readDigits digits

def readInt (s : List Char) : Option Int :=
  match s with
  | '-' :: digits => (readDigits digits).map fun n => -(n : Int)
  | digits => (readNat digits).map Int.ofNat

def readBelow (bound : Nat) (s : List Char) : Option Nat :=
  (readNat s).filter (· < bound)

def readSigned (bits : Nat) (s : List Char) : Option Int :=
  let limit : Int := Nat.pow 2 (bits - 1)
  (readInt s).filter fun n => -limit ≤ n ∧ n < limit

def readUInt16 (s : List Char) : Option UInt16 :=
  (readBelow UInt16.size s).map UInt16.ofNat

def readUInt32 (s : List Char) : Option UInt32 :=
  (readBelow UInt32.size s).map UInt32.ofNat

def readUInt64 (s : List Char) : Option UInt64 :=
  (readBelow UInt64.size s).map UInt64.ofNat

def readInt64 (s : List Char) : Option Int64 :=
  (readSigned 64 s).map Int64.ofInt

def padded (width n : Nat) : List Char :=
  let digits := Nat.toDigits 10 n
  List.replicate (width - digits.length) '0' ++ digits

theorem readDigits_toDigits (n : Nat) : readDigits (Nat.toDigits 10 n) = some n := by
  have digits : (Nat.toDigits 10 n).all Char.isDigit = true := by
    rw [List.all_eq_true]
    exact fun c hc => Nat.isDigit_of_mem_toDigits (by decide) (by decide) hc
  have nonempty : (Nat.toDigits 10 n).isEmpty = false := by
    rw [List.isEmpty_eq_false_iff]
    exact Nat.toDigits_ne_nil
  simp [readDigits, digits, nonempty, Nat.ofDigitChars_toDigits]

theorem readNat_toDigits (n : Nat) : readNat (Nat.toDigits 10 n) = some n := by
  unfold readNat
  split
  · next digits signed =>
    have sign : '+' ∈ Nat.toDigits 10 n := by rw [signed]; exact List.mem_cons_self
    exact absurd (Nat.isDigit_of_mem_toDigits (by decide) (by decide) sign) (by decide)
  · exact readDigits_toDigits n

theorem readBelow_toDigits {n bound : Nat} (below : n < bound) :
    readBelow bound (Nat.toDigits 10 n) = some n := by
  simp [readBelow, readNat_toDigits, below]

theorem readUInt16_toDigits (n : UInt16) : readUInt16 (Nat.toDigits 10 n.toNat) = some n := by
  rw [readUInt16, readBelow_toDigits n.toNat_lt, Option.map_some, UInt16.ofNat_toNat]

theorem readUInt32_toDigits (n : UInt32) : readUInt32 (Nat.toDigits 10 n.toNat) = some n := by
  rw [readUInt32, readBelow_toDigits n.toNat_lt, Option.map_some, UInt32.ofNat_toNat]

theorem readUInt64_toDigits (n : UInt64) : readUInt64 (Nat.toDigits 10 n.toNat) = some n := by
  rw [readUInt64, readBelow_toDigits n.toNat_lt, Option.map_some, UInt64.ofNat_toNat]

theorem readInt_toString (n : Int) : readInt (toString n).toList = some n := by
  cases n with
  | ofNat n =>
    have text : (toString (Int.ofNat n)).toList = Nat.toDigits 10 n := by
      simp [toString, Int.repr]
    rw [text, readInt]
    · rw [readNat_toDigits]
      rfl
    · intro digits signed
      have sign : '-' ∈ Nat.toDigits 10 n := by rw [signed]; exact List.mem_cons_self
      exact absurd (Nat.isDigit_of_mem_toDigits (by decide) (by decide) sign) (by decide)
  | negSucc n =>
    have text : (toString (Int.negSucc n)).toList = '-' :: Nat.toDigits 10 (n + 1) := by
      simp [toString, Int.repr]
    rw [text, readInt, readDigits_toDigits]
    rfl

theorem readInt64_toString (n : Int64) : readInt64 (toString n.toInt).toList = some n := by
  have fits : readSigned 64 (toString n.toInt).toList = some n.toInt := by
    rw [readSigned, readInt_toString, Option.filter_some, if_pos]
    exact decide_eq_true ⟨n.le_toInt, n.toInt_lt⟩
  rw [readInt64, fits, Option.map_some, Int64.ofInt_toInt]

end BackupConsole.Number
