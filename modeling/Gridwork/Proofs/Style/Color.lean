import Gridwork.Proofs.Number.Numeral
import Gridwork.Style.Basic
import Mathlib.Data.List.DropRight

/-!
# Colours in cells

A cell shows a colour as eight hexadecimal digits, of which the last six stand for the channels, two
for each. `Color.channels?` reads them, and `Color.channels?_opaqueColor` says that they tell the
colour again.
-/

namespace Gridwork

namespace Text

/-- The number that two hexadecimal digits spell. -/
def hexPair? (a b : Char) : Option Nat := do
  let a ← hexDigit? a
  let b ← hexDigit? b
  return a * 16 + b

/-- A number below 256 takes two digits, the first of which may be a zero. -/
theorem toList_hexUpper_two {n : Nat} (h : n < 256) :
    (hexUpper 2 n).toList
      = [(Nat.digitChar (n / 16)).toUpper, (Nat.digitChar (n % 16)).toUpper] := by
  rw [hexUpper, String.toList_ofList, hexDigits_two h]
  rfl

theorem hexPair?_digits {n : Nat} (h : n < 256) :
    hexPair? (Nat.digitChar (n / 16)).toUpper (Nat.digitChar (n % 16)).toUpper = some n := by
  have hhigh : n / 16 < 16 := by omega
  have hlow : n % 16 < 16 := Nat.mod_lt n (by decide)
  have hsum : n / 16 * 16 + n % 16 = n := Nat.div_add_mod' n 16
  rw [hexPair?, hexDigit?_toUpper_digitChar hhigh, hexDigit?_toUpper_digitChar hlow]
  exact congrArg some hsum

end Text

namespace Color

/-- The channels that six hexadecimal digits spell. -/
def channels? : List Char → Option (Nat × Nat × Nat)
  | [a, b, c, d, e, f] => do
    let red ← Text.hexPair? a b
    let green ← Text.hexPair? c d
    let blue ← Text.hexPair? e f
    return (red, green, blue)
  | _ => none

theorem toList_channelHex (channel : Fin 256) :
    (channelHex (channel.val : Int)).toList
      = [(Nat.digitChar (channel.val / 16)).toUpper,
        (Nat.digitChar (channel.val % 16)).toUpper] := by
  have hsign : ¬ ((channel.val : Int) < 0) := Int.not_lt.mpr (Int.natCast_nonneg _)
  rw [channelHex, if_neg hsign, Int.natAbs_natCast]
  exact Text.toList_hexUpper_two channel.isLt

/-- The digits of a colour are those of its channels. -/
theorem toList_hex (c : Color) :
    c.hex.toList = (channelHex c.red.val).toList ++ (channelHex c.green.val).toList
      ++ (channelHex c.blue.val).toList := by
  simp [hex, channelsHex, String.join, String.toList_append]

/-- **The last six digits of a shown colour** spell its channels. -/
theorem channels?_opaqueColor (c : Color) :
    channels? ((Style.opaqueColor c).toList.rtake 6)
      = some (c.red.val, c.green.val, c.blue.val) := by
  have hdigits : (Style.opaqueColor c).toList.rtake 6 = c.hex.toList := by
    have hsix : c.hex.toList.length = 6 := by
      rw [toList_hex, toList_channelHex, toList_channelHex, toList_channelHex]
      rfl
    rw [Style.opaqueColor, String.toList_append, List.rtake, List.length_append, hsix]
    exact List.drop_left' rfl
  rw [hdigits, toList_hex, toList_channelHex, toList_channelHex, toList_channelHex]
  dsimp only [List.cons_append, List.nil_append, channels?]
  rw [Text.hexPair?_digits c.red.isLt, Text.hexPair?_digits c.green.isLt,
    Text.hexPair?_digits c.blue.isLt]
  rfl

end Color

end Gridwork
