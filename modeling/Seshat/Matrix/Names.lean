import Seshat.Lib.Infix
import Seshat.Matrix.Documents

/-! The names of the comparison rows tell their path, kind, size and connections. -/

namespace Seshat.Matrix
open Lib.Infix

/-! Numbers. -/

theorem not_mem_decimal {n : UInt32} {c : Char} (other : c.isDigit = false) : c ∉ decimal n :=
  not_mem_toDigits other

theorem decimal_injective : Function.Injective decimal := fun _ _ same =>
  UInt32.toNat_inj.mp (toDigits_injective same)

/-! Sizes. -/

def kilobytes : List UInt32 := [1024, 16384, 32768, 65536]

theorem sizeLabel_plain {bytes : UInt32} (plain : bytes ∉ kilobytes) :
    sizeLabel bytes = decimal bytes ++ ['B'] := by
  simp only [kilobytes, List.mem_cons, List.not_mem_nil, or_false, not_or] at plain
  obtain ⟨one, sixteen, thirtyTwo, sixtyFour⟩ := plain
  rw [sizeLabel, if_neg one, if_neg sixteen, if_neg thirtyTwo, if_neg sixtyFour]

theorem kilo_cases {bytes : UInt32} (member : bytes ∈ kilobytes) :
    bytes = 1024 ∨ bytes = 16384 ∨ bytes = 32768 ∨ bytes = 65536 := by
  simpa [kilobytes] using member

theorem kilo_mem {bytes : UInt32} (member : bytes ∈ kilobytes) : 'K' ∈ sizeLabel bytes := by
  rcases kilo_cases member with rfl | rfl | rfl | rfl <;> decide +kernel

theorem kilo_not_mem {bytes : UInt32} (plain : bytes ∉ kilobytes) : 'K' ∉ sizeLabel bytes := by
  rw [sizeLabel_plain plain, List.mem_append, not_or]
  exact ⟨not_mem_decimal rfl, by decide⟩

theorem kilo_inj {a b : UInt32} (kiloA : a ∈ kilobytes) (kiloB : b ∈ kilobytes)
    (same : sizeLabel a = sizeLabel b) : a = b := by
  revert same
  rcases kilo_cases kiloA with rfl | rfl | rfl | rfl <;>
  rcases kilo_cases kiloB with rfl | rfl | rfl | rfl <;>
  decide +kernel

theorem sizeLabel_injective : Function.Injective sizeLabel := by
  intro a b same
  by_cases kiloA : a ∈ kilobytes <;> by_cases kiloB : b ∈ kilobytes
  · exact kilo_inj kiloA kiloB same
  · exact absurd (same ▸ kilo_mem kiloA) (kilo_not_mem kiloB)
  · exact absurd (same ▸ kilo_mem kiloB) (kilo_not_mem kiloA)
  · rw [sizeLabel_plain kiloA, sizeLabel_plain kiloB] at same
    exact decimal_injective (List.append_cancel_right same)

/-- The parts of a name hold no separator. -/
theorem sep_not_mem_sizeLabel {sep : Char} (isSep : sep = '_' ∨ sep = '-') (bytes : UInt32) :
    sep ∉ sizeLabel bytes := by
  by_cases kilo : bytes ∈ kilobytes
  · rcases isSep with rfl | rfl <;>
    rcases kilo_cases kilo with rfl | rfl | rfl | rfl <;>
    decide +kernel
  · rw [sizeLabel_plain kilo, List.mem_append, not_or]
    rcases isSep with rfl | rfl <;> exact ⟨not_mem_decimal rfl, by decide⟩

theorem sep_not_mem_count {sep : Char} (isSep : sep = '_' ∨ sep = '-') (connections : UInt32) :
    sep ∉ decimal connections ++ ['c'] := by
  rw [List.mem_append, not_or]
  rcases isSep with rfl | rfl <;> exact ⟨not_mem_decimal rfl, by decide⟩

/-! Names and groups. -/

section Names

variable {id id' kind kind' : String} {size size' connections connections' : UInt32}

theorem ifaceName_cut :
    ifaceName id kind size connections =
      ((("iface_".toList ++ id.toList) ++ '_' :: kind.toList) ++ '_' :: sizeLabel size) ++
        '_' :: (decimal connections ++ ['c']) := by
  simp [ifaceName, joined, List.intercalate]

theorem ifaceGroup_cut :
    ifaceGroup kind size connections =
      (("iface-".toList ++ kind.toList) ++ '-' :: sizeLabel size) ++
        '-' :: (decimal connections ++ ['c']) := by
  simp [ifaceGroup, List.intercalate]

theorem ifaceName_inj (plain : '_' ∉ kind.toList) (plain' : '_' ∉ kind'.toList) :
    ifaceName id kind size connections = ifaceName id' kind' size' connections' ↔
      id = id' ∧ kind = kind' ∧ size = size' ∧ connections = connections' := by
  rw [ifaceName_cut, ifaceName_cut,
    append_sep_inj (sep_not_mem_count (.inl rfl) _) (sep_not_mem_count (.inl rfl) _),
    append_sep_inj (sep_not_mem_sizeLabel (.inl rfl) _) (sep_not_mem_sizeLabel (.inl rfl) _),
    append_sep_inj plain plain', List.append_cancel_left_eq, List.append_cancel_right_eq,
    String.toList_inj, String.toList_inj, sizeLabel_injective.eq_iff, decimal_injective.eq_iff]
  tauto

theorem ifaceGroup_inj :
    ifaceGroup kind size connections = ifaceGroup kind size' connections' ↔
      size = size' ∧ connections = connections' := by
  rw [ifaceGroup_cut, ifaceGroup_cut,
    append_sep_inj (sep_not_mem_count (.inr rfl) _) (sep_not_mem_count (.inr rfl) _),
    append_sep_inj (sep_not_mem_sizeLabel (.inr rfl) _) (sep_not_mem_sizeLabel (.inr rfl) _),
    List.append_cancel_right_eq, sizeLabel_injective.eq_iff, List.append_cancel_right_eq,
    decimal_injective.eq_iff]
  tauto

end Names

end Seshat.Matrix
