/-!
# Contents of files

A file holds bytes.  What they mean, a text, a class or an archive, is for those to say who read
them.
-/

set_option autoImplicit false

namespace MultiRelease

/-- What a file holds. -/
structure Content where
  data : ByteArray
deriving Inhabited

namespace Content

/-- The content that consists of the given bytes. -/
def ofBytes (bytes : List UInt8) : Content := ⟨⟨bytes.toArray⟩⟩

/-- The bytes of a content. -/
def bytes (content : Content) : List UInt8 := content.data.data.toList

/-- The text that the bytes encode in UTF-8, if they do. -/
def text? (content : Content) : Option String := String.fromUTF8? content.data

theorem bytes_ofBytes (bytes : List UInt8) : (ofBytes bytes).bytes = bytes := by
  simp [ofBytes, Content.bytes]

end Content

end MultiRelease
