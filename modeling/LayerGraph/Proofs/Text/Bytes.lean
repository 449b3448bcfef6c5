import Mathlib.Data.List.Basic

/-! # The bytes of a text

    A file holds the bytes of a text in UTF-8 as a list. Decoding these bytes gives the text again
    (`fromUTF8?_bytes`).
-/

namespace LayerGraph.Text

/-- Walking through bytes from an index on puts them behind those that were met, in order. -/
theorem walk_bytes (content : ByteArray) (i : Nat) (met : List UInt8) :
    ByteArray.toList.loop content i met = met.reverse ++ content.data.toList.drop i := by
  induction i, met using ByteArray.toList.loop.induct content with
  | case1 i met hmore ih =>
    have hsize : i < content.data.size := hmore
    have hbyte : content.get! i = content.data[i] := getElem!_pos content.data i hsize
    have hlength : i < content.data.toList.length := hmore
    rw [ByteArray.toList.loop, if_pos hmore, ih, hbyte, List.drop_eq_getElem_cons hlength]
    simp
  | case2 i met hend =>
    have hlength : content.data.toList.length ≤ i := Nat.not_lt.1 hend
    rw [ByteArray.toList.loop, if_neg hend, List.drop_eq_nil_of_le hlength, List.append_nil]

theorem toList_eq (content : ByteArray) : content.toList = content.data.toList :=
  walk_bytes content 0 []

/-- Bytes as a list are the same bytes. -/
theorem bytes_toList (content : ByteArray) : (⟨content.toList.toArray⟩ : ByteArray) = content := by
  rw [toList_eq, Array.toArray_toList]

/-- The bytes of two texts stand one after the other. -/
theorem bytes_append (s t : String) :
    (s ++ t).toUTF8.toList = s.toUTF8.toList ++ t.toUTF8.toList := by
  simp [toList_eq, String.toUTF8]

/-- The bytes of a text are decoded to the text. -/
theorem fromUTF8?_bytes (s : String) : String.fromUTF8? ⟨s.toUTF8.toList.toArray⟩ = some s := by
  rw [bytes_toList]
  exact dif_pos s.isValidUTF8

end LayerGraph.Text
