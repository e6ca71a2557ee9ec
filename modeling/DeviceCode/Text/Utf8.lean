import DeviceCode.Bytes

/-!
# Text as bytes

Names inside an image are UTF-8. `ofUtf8?` accepts exactly the byte strings that `utf8` produces.
-/

namespace DeviceCode.Text

/-- The UTF-8 bytes of a text. -/
def utf8 (s : String) : Bytes := s.toByteArray.data.toList

/-- The text that these bytes spell, if they are valid UTF-8. -/
def ofUtf8? (bs : Bytes) : Option String := String.fromUTF8? ⟨bs.toArray⟩

theorem ofUtf8?_utf8 (s : String) : ofUtf8? (utf8 s) = some s := by
  have h : (⟨s.toByteArray.data.toList.toArray⟩ : ByteArray) = s.toByteArray := by simp
  simp only [ofUtf8?, utf8, h, String.fromUTF8?, s.isValidUTF8, dite_true]
  rfl

end DeviceCode.Text
