import BackupConsole.Proofs.Text.OneLine
import BackupConsole.Text.Hex

set_option autoImplicit false

namespace BackupConsole.Text

theorem hexValue?_hexDigit {n : Nat} (digit : n < 16) : hexValue? (hexDigit n) = some n :=
  (by decide : ∀ n : Fin 16, hexValue? (hexDigit n) = some n.val) ⟨n, digit⟩

theorem hexDigit_ne_plus {n : Nat} (digit : n < 16) : hexDigit n ≠ '+' :=
  (by decide : ∀ n : Fin 16, hexDigit n ≠ '+') ⟨n, digit⟩

theorem hexPair?_digits (b : UInt8) :
    hexPair? (hexDigit (b.toNat / 16)) (hexDigit (b.toNat % 16)) = some b := by
  have high : b.toNat / 16 < 16 := Nat.div_lt_of_lt_mul b.toNat_lt
  have low : b.toNat % 16 < 16 := Nat.mod_lt _ (by decide)
  rw [hexPair?, if_neg (hexDigit_ne_plus high), hexValue?_hexDigit high, hexValue?_hexDigit low]
  dsimp only
  rw [Nat.div_add_mod, UInt8.ofNat_toNat]

theorem hexBytes?_flatMap (bytes : List UInt8) :
    hexBytes? (bytes.flatMap hexByte) = some bytes := by
  induction bytes with
  | nil => rfl
  | cons b bytes ih =>
    rw [List.flatMap_cons, hexByte, List.cons_append, List.singleton_append, hexBytes?,
      hexPair?_digits, ih]

theorem ofHex?_toHex (text : String) : ofHex? (toHex text) = some text := by
  have digits : (toHex text).toList = (utf8Bytes text).flatMap hexByte := String.toList_ofList
  rw [ofHex?, digits, hexBytes?_flatMap, Option.bind_some, fromUTF8?_utf8Bytes]

end BackupConsole.Text
