import Mathlib.Tactic.SplitIfs

set_option autoImplicit false

namespace BackupConsole

namespace Text

def utf8Bytes (s : String) : List UInt8 := s.toByteArray.data.toList

theorem utf8Bytes_eq_flatMap (s : String) :
    utf8Bytes s = s.toList.flatMap String.utf8EncodeChar := by
  rw [utf8Bytes, ← String.utf8Encode_toList, List.utf8Encode]
  simp

end Text

end BackupConsole
