namespace Federation

abbrev Bytes := List UInt8

namespace Bytes

def ofText (text : String) : Bytes := text.toUTF8.toList

def toText? (bytes : Bytes) : Option String := String.fromUTF8? ⟨bytes.toArray⟩

theorem eq_encoding {bytes : Bytes} {text : String} (read : bytes.toText? = some text) :
    bytes = text.toList.flatMap String.utf8EncodeChar := by
  have same : text.toByteArray = ⟨bytes.toArray⟩ := by
    unfold toText? String.fromUTF8? at read
    split at read
    · cases read
      rfl
    · cases read
  rw [← String.ofList_toList (s := text)] at same
  rw [String.toByteArray_ofList, List.utf8Encode] at same
  have data := congrArg (fun array => array.data.toList) same
  simpa using data.symm

theorem toText?_encoding (text : List Char) :
    toText? (text.flatMap String.utf8EncodeChar) = some (String.ofList text) := by
  have same : (⟨(text.flatMap String.utf8EncodeChar).toArray⟩ : ByteArray) =
      (String.ofList text).toByteArray := by
    rw [String.toByteArray_ofList, List.utf8Encode]
    apply ByteArray.ext
    simp
  unfold toText? String.fromUTF8?
  rw [dif_pos (same ▸ (String.ofList text).isValidUTF8)]
  exact congrArg some (String.toByteArray_inj.mp same)

theorem toList_loop (bytes : ByteArray) (start : Nat) (seen : Bytes) :
    ByteArray.toList.loop bytes start seen = seen.reverse ++ bytes.data.toList.drop start := by
  fun_induction ByteArray.toList.loop bytes start seen with
  | case1 start seen inside ih =>
    have within : start < bytes.data.toList.length := by simpa using inside
    have byte : bytes.get! start = bytes.data.toList[start] := getElem!_pos bytes.data start inside
    rw [ih, List.drop_eq_getElem_cons within, byte, List.reverse_cons, List.append_assoc]
    rfl
  | case2 start seen outside =>
    rw [List.drop_eq_nil_of_le (by simpa using outside), List.append_nil]

theorem ofText_ofList (text : List Char) :
    ofText (String.ofList text) = text.flatMap String.utf8EncodeChar := by
  rw [ofText, String.toUTF8_eq_toByteArray, ByteArray.toList, toList_loop, String.toByteArray_ofList,
    List.utf8Encode]
  simp

def toNat (bytes : Bytes) : Nat := bytes.foldl (fun value byte => value * 256 + byte.toNat) 0

def toNatLE (bytes : Bytes) : Nat := bytes.foldr (fun byte value => value * 256 + byte.toNat) 0

def ofNatLE : (width value : Nat) → Bytes
  | 0, _ => []
  | width + 1, value => UInt8.ofNat value :: ofNatLE width (value / 256)

def ofNat (width value : Nat) : Bytes := (ofNatLE width value).reverse

def isAsciiBlank (byte : UInt8) : Bool :=
  byte == 0x20 || byte == 0x09 || byte == 0x0A || byte == 0x0C || byte == 0x0D

/-- Equality that looks at every byte of two sequences of one length, whatever the first
    difference: the bytes are combined by exclusive or and the results are joined. -/
def equalInFull (left right : Bytes) : Bool :=
  left.length == right.length &&
    (List.zipWith (· ^^^ ·) left right).foldl (· ||| ·) 0 == 0

end Bytes

end Federation
