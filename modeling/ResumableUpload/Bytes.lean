/-!
# Bytes

Contents, digests and header values are lists of bytes.  This module fixes
that type and the two directions between bytes and text: every text has one
UTF-8 form, and a list of bytes is a text only if it is well-formed UTF-8.
-/

namespace ResumableUpload

/-- A finite sequence of bytes. -/
abbrev Bytes := List UInt8

namespace Bytes

def ofString (text : String) : Bytes :=
  text.toUTF8.data.toList

/-- The bytes of a text are those of its characters, one after the other. -/
theorem ofString_eq_flatMap (text : String) :
    ofString text = text.toList.flatMap String.utf8EncodeChar := by
  rw [ofString, String.toUTF8_eq_toByteArray, ← String.utf8Encode_toList,
    List.utf8Encode, List.data_toByteArray]

/-- The text that the bytes are the UTF-8 form of, if they are one. -/
def toString? (bytes : Bytes) : Option String :=
  String.fromUTF8? ⟨bytes.toArray⟩

/--
The bytes in pieces of `size`, the last one possibly shorter.  A `size` of
zero counts as one, so every piece carries something.
-/
def pieces (size : Nat) : Bytes → List Bytes
  | [] => []
  | byte :: rest =>
      (byte :: rest.take (size - 1)) :: pieces size (rest.drop (size - 1))
termination_by bytes => bytes.length
decreasing_by
  simp only [List.length_drop, List.length_cons]
  omega

end Bytes

end ResumableUpload
