import Dashwright.Value.Basic

/-! Equality with a text. Names, keys and target names are texts, and a text equals only the
same text, whichever side it stands on. -/

namespace Dashwright.Value

theorem equal_text_iff (x : Value) (a : String) : Value.equal x (.str a) = true ↔ x = .str a := by
  cases x <;> simp [Value.equal]

theorem text_equal_iff (a : String) (y : Value) : Value.equal (.str a) y = true ↔ .str a = y := by
  cases y <;> simp [Value.equal]

theorem equal_text_comm (x : Value) (a : String) : Value.equal x (.str a) = Value.equal (.str a) x := by
  rw [Bool.eq_iff_iff, equal_text_iff, text_equal_iff, eq_comm]

end Dashwright.Value
