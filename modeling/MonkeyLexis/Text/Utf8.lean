import MonkeyLexis.Byte

/-!
# Text as bytes

The UTF-8 encoding of text as a list of bytes, and its inverse. Main statement: `decode?` accepts
exactly what `encode` produces.
-/

namespace MonkeyLexis.Text

def encode (text : String) : List Byte :=
  text.toList.flatMap String.utf8EncodeChar

/-- The text whose UTF-8 encoding is `bytes`, if there is one. -/
def decode? (bytes : List Byte) : Option String :=
  String.fromUTF8? bytes.toByteArray

/-- The text whose characters have the numbers of the 7-bit `bytes`. -/
def ofSevenBit (bytes : List Byte) : String :=
  String.ofList (bytes.map Char.ofUInt8)

theorem toByteArray_encode (text : String) : (encode text).toByteArray = text.toByteArray := by
  rw [← String.utf8Encode_toList]
  rfl

theorem toByteArray_injective {left right : List Byte}
    (same : left.toByteArray = right.toByteArray) : left = right := by
  have sameData := congrArg (fun array => array.data.toList) same
  simpa using sameData

/-- Decoding accepts exactly what encoding produces. -/
theorem decode?_eq_some_iff {bytes : List Byte} {text : String} :
    decode? bytes = some text ↔ bytes = encode text := by
  constructor
  · intro decoded
    apply toByteArray_injective
    rw [toByteArray_encode]
    unfold decode? String.fromUTF8? at decoded
    split at decoded
    · rw [← Option.some.inj decoded]
      rfl
    · contradiction
  · rintro rfl
    unfold decode? String.fromUTF8?
    rw [toByteArray_encode, dif_pos text.isValidUTF8]
    rfl

@[simp]
theorem decode?_encode (text : String) : decode? (encode text) = some text :=
  decode?_eq_some_iff.mpr rfl

theorem encode_injective {left right : String} (same : encode left = encode right) :
    left = right := by
  have decoded := decode?_encode left
  rw [same, decode?_encode] at decoded
  exact (Option.some.inj decoded).symm

/-- Text of 7-bit characters has one byte for each of them. -/
theorem encode_ofSevenBit {bytes : List Byte} (sevenBit : ∀ byte ∈ bytes, byte < 128) :
    encode (ofSevenBit bytes) = bytes := by
  have single : ∀ byte : Byte, byte < 128 →
      String.utf8EncodeChar (Char.ofUInt8 byte) = [byte] :=
    Byte.forall_of_forall_lt (by decide +kernel)
  unfold encode ofSevenBit
  rw [String.toList_ofList]
  induction bytes with
  | nil => rfl
  | cons byte bytes ih =>
      have first := single byte (sevenBit byte List.mem_cons_self)
      have others := ih fun other member => sevenBit other (List.mem_cons_of_mem _ member)
      rw [List.map_cons, List.flatMap_cons, first, others]
      rfl

theorem ofSevenBit_eq_iff {bytes : List Byte} (sevenBit : ∀ byte ∈ bytes, byte < 128)
    {text : String} : ofSevenBit bytes = text ↔ bytes = encode text := by
  constructor
  · rintro rfl
    exact (encode_ofSevenBit sevenBit).symm
  · intro same
    apply encode_injective
    rw [encode_ofSevenBit sevenBit, same]

theorem decode?_of_sevenBit {bytes : List Byte} (sevenBit : ∀ byte ∈ bytes, byte < 128) :
    decode? bytes = some (ofSevenBit bytes) :=
  decode?_eq_some_iff.mpr (encode_ofSevenBit sevenBit).symm

end MonkeyLexis.Text
