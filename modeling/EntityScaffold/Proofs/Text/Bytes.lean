import Mathlib.Data.String.Basic
import Mathlib.Tactic.SplitIfs

/-!
Texts stand in the order of their characters exactly if their bytes in UTF-8 do.
-/

namespace EntityScaffold.Text

def bytes (text : String) : List UInt8 := text.toByteArray.data.toList

theorem bytes_eq_flatMap (text : String) :
    bytes text = text.toList.flatMap String.utf8EncodeChar := by
  have h : text.toByteArray = text.toList.utf8Encode := by
    rw [← String.toByteArray_ofList, String.ofList_toList]
  rw [bytes, h, List.utf8Encode, List.data_toByteArray]

/-- Two lists differ somewhere, and the first has the smaller byte in the first such place. -/
inductive Below : List UInt8 → List UInt8 → Prop where
  | here {a b : UInt8} {rest other : List UInt8} (less : a < b) : Below (a :: rest) (b :: other)
  | later {a : UInt8} {rest other : List UInt8} (below : Below rest other) :
    Below (a :: rest) (a :: other)

namespace Below

theorem append_lt {front other : List UInt8} (h : Below front other) (rest more : List UInt8) :
    front ++ rest < other ++ more := by
  induction h with
  | here less => exact List.Lex.rel less
  | later _ ih => exact List.Lex.cons ih

theorem ofNat_of_lt {m n : Nat} {rest other : List UInt8} (h : m < n) (hn : n < 256) :
    Below (.ofNat m :: rest) (.ofNat n :: other) := by
  apply here
  rw [UInt8.lt_iff_toNat_lt, UInt8.toNat_ofNat', UInt8.toNat_ofNat']
  omega

theorem ofNat {m n : Nat} {rest other : List UInt8} (hle : m ≤ n) (hn : n < 256)
    (hrest : m = n → Below rest other) : Below (.ofNat m :: rest) (.ofNat n :: other) := by
  rcases Nat.lt_or_eq_of_le hle with hlt | rfl
  · exact ofNat_of_lt hlt hn
  · exact later (hrest rfl)

end Below

/-- No character's bytes begin those of another one, and a greater character has greater bytes. -/
theorem below_encoded {c d : Char} (h : c < d) :
    Below (String.utf8EncodeChar c) (String.utf8EncodeChar d) := by
  have hlt : c.val.toNat < d.val.toNat := h
  have hsize : d.val.toNat < 0x110000 := by
    have hv := d.valid
    unfold UInt32.isValidChar Nat.isValidChar at hv
    omega
  unfold String.utf8EncodeChar
  dsimp only
  generalize c.val.toNat = m at hlt ⊢
  generalize d.val.toNat = n at hlt hsize ⊢
  -- first the characters of one byte, then those of two, three and four; a smaller one never has
  -- more bytes
  split_ifs
  · exact .ofNat_of_lt hlt (by omega)
  · exact .ofNat_of_lt (by omega) (by omega)
  · exact .ofNat_of_lt (by omega) (by omega)
  · exact .ofNat_of_lt (by omega) (by omega)
  · omega
  · exact .ofNat (by omega) (by omega) fun _ => .ofNat_of_lt (by omega) (by omega)
  · exact .ofNat_of_lt (by omega) (by omega)
  · exact .ofNat_of_lt (by omega) (by omega)
  · omega
  · omega
  · exact .ofNat (by omega) (by omega) fun _ => .ofNat (by omega) (by omega) fun _ =>
      .ofNat_of_lt (by omega) (by omega)
  · exact .ofNat_of_lt (by omega) (by omega)
  · omega
  · omega
  · omega
  · exact .ofNat (by omega) (by omega) fun _ => .ofNat (by omega) (by omega) fun _ =>
      .ofNat (by omega) (by omega) fun _ => .ofNat_of_lt (by omega) (by omega)

theorem encoded_lt {text other : List Char} (h : text < other) :
    text.flatMap String.utf8EncodeChar < other.flatMap String.utf8EncodeChar := by
  induction h with
  | nil =>
    next c rest =>
    have hsize := c.utf8Size_pos
    rw [← String.length_utf8EncodeChar] at hsize
    obtain ⟨byte, more, hb⟩ := List.exists_cons_of_length_pos hsize
    rw [List.flatMap_cons, hb]
    exact List.Lex.nil
  | rel less => exact (below_encoded less).append_lt _ _
  | cons _ ih => exact List.append_left_lt ih

/-- The order of texts is that of their bytes. -/
theorem bytes_lt_iff {text other : String} : bytes text < bytes other ↔ text < other := by
  rw [bytes_eq_flatMap, bytes_eq_flatMap, String.lt_iff_toList_lt]
  refine ⟨fun h => ?_, encoded_lt⟩
  rcases lt_trichotomy text.toList other.toList with hlt | heq | hgt
  · exact hlt
  · rw [heq] at h
    exact absurd h (List.lt_irrefl _)
  · exact absurd h (List.lt_asymm (encoded_lt hgt))

end EntityScaffold.Text
