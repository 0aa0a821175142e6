/-
The UTF-8 bytes of a text.

`ofUtf8?_utf8` says that the bytes of a text read back as the text.
-/
namespace SqlAccess.Text

/-- The bytes of a text. -/
def utf8 (s : String) : List UInt8 := s.toUTF8.data.toList

/-- The text with these bytes, unless they are no valid UTF-8. -/
def ofUtf8? (bytes : List UInt8) : Option String := String.fromUTF8? ⟨bytes.toArray⟩

@[simp] theorem ofUtf8?_utf8 (s : String) : ofUtf8? (utf8 s) = some s := by
  have h : (⟨s.toUTF8.data.toList.toArray⟩ : ByteArray) = s.toByteArray := rfl
  have hv : s.toByteArray.IsValidUTF8 := s.isValidUTF8
  simp only [ofUtf8?, utf8, h, String.fromUTF8?, hv, dite_true]
  rfl

end SqlAccess.Text
