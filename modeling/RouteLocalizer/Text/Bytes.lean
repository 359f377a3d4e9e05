/-
  Texts as BYTES, in the UTF-8 form.

  Every text has a form in bytes, from which it can be had back (`decode_encode`), but not all bytes
  are the form of a text.  Where they are not as a whole, a reader that goes line by line still gets
  the texts of the lines in front of the first faulty one; a line feed is a byte of its own in every
  text, so the lines can be cut first.
-/
import RouteLocalizer.Text.Basic

namespace RouteLocalizer.Text

/-- The bytes of a text. -/
def encode (text : Text) : List UInt8 := (String.ofList text).toUTF8.data.toList

/-- The text of bytes, if they are the form of one. -/
def decode (bytes : List UInt8) : Option Text :=
  (String.fromUTF8? ⟨bytes.toArray⟩).map String.toList

theorem decode_encode (text : Text) : decode (encode text) = some text := by
  have h : String.fromUTF8? (String.ofList text).toUTF8 = some (String.ofList text) :=
    dif_pos (String.ofList text).isValidUTF8
  have hb : (⟨(encode text).toArray⟩ : ByteArray) = (String.ofList text).toUTF8 := rfl
  rw [decode, hb, h, Option.map_some, String.toList_ofList]

/-- The byte of a line feed. -/
def lineFeed : UInt8 := 10

/-- The bytes of the lines of a file, each without the line feed that ends it. -/
def byteLines : List UInt8 → List (List UInt8)
  | [] => []
  | b :: bs =>
    if b = lineFeed then [] :: byteLines bs
    else match byteLines bs with
      | [] => [[b]]
      | l :: ls => (b :: l) :: ls

/-- The texts of lines, up to the first one that is no text. -/
def decodeUntilFaulty : List (List UInt8) → List Text
  | [] => []
  | l :: ls =>
    match decode l with
    | none => []
    | some line => line :: decodeUntilFaulty ls

/-- The lines of a file in front of the first one that is no text. -/
def soundLines (bytes : List UInt8) : List Text := decodeUntilFaulty (byteLines bytes)

end RouteLocalizer.Text
