/-!
Bytes and text: lower-case hexadecimal, and UTF-8 read either strictly or with the replacement
character standing for each maximal ill-formed part.
-/

namespace DualServer.Text

abbrev Bytes := List UInt8

def utf8 (s : String) : Bytes := s.toUTF8.toList

theorem toList_eq_data (bytes : ByteArray) : bytes.toList = bytes.data.toList := by
  have hloop (i : Nat) (read : Bytes) :
      ByteArray.toList.loop bytes i read = read.reverse ++ bytes.data.toList.drop i := by
    fun_induction ByteArray.toList.loop bytes i read with
    | case1 i read hlt ih =>
      have hlength : i < bytes.data.toList.length := hlt
      have hget : bytes.get! i = bytes.data.toList[i] := getElem!_pos bytes.data i hlt
      rw [ih, List.drop_eq_getElem_cons hlength, hget, List.reverse_cons, List.append_assoc,
        List.singleton_append]
    | case2 i read hlt =>
      rw [List.drop_eq_nil_of_le (Nat.le_of_not_lt hlt), List.append_nil]
  exact hloop 0 []

/-- Texts with the same bytes are the same. -/
theorem utf8_inj {s t : String} : utf8 s = utf8 t ↔ s = t := by
  refine ⟨fun h => String.toByteArray_inj.mp (ByteArray.ext ?_), congrArg utf8⟩
  unfold utf8 at h
  rw [toList_eq_data, toList_eq_data] at h
  exact Array.toList_inj.mp h

theorem utf8_ofList (cs : List Char) :
    utf8 (String.ofList cs) = cs.flatMap String.utf8EncodeChar := by
  rw [utf8, toList_eq_data, String.toUTF8_eq_toByteArray, String.toByteArray_ofList,
    List.utf8Encode, List.toList_data_toByteArray]

theorem utf8EncodeChar_ofUInt8 {b : UInt8} (h : b < 0x80) :
    String.utf8EncodeChar (Char.ofUInt8 b) = [b] := by
  have hsize : (Char.ofUInt8 b).utf8Size = 1 := by
    rw [Char.utf8Size_eq_one_iff, UInt32.le_iff_toNat_le]
    exact Nat.le_of_lt_succ (UInt8.lt_iff_toNat_lt.mp h)
  rw [String.utf8EncodeChar_eq_singleton hsize]
  exact congrArg (fun b => [b]) (UInt8.toUInt8_toUInt32 b)

/-- ASCII characters are their own bytes. -/
theorem utf8_ascii {bytes : Bytes} (h : ∀ b ∈ bytes, b < 0x80) :
    utf8 (String.ofList (bytes.map Char.ofUInt8)) = bytes := by
  rw [utf8_ofList]
  induction bytes with
  | nil => rfl
  | cons b bytes ih =>
    rw [List.map_cons, List.flatMap_cons, utf8EncodeChar_ofUInt8 (h b List.mem_cons_self),
      ih fun b hb => h b (List.mem_cons_of_mem _ hb), List.singleton_append]

def hex (bytes : Bytes) : String :=
  String.ofList (bytes.flatMap fun b =>
    [Nat.digitChar (b.toNat / 16), Nat.digitChar (b.toNat % 16)])

def hexValue? (c : Char) : Option Nat :=
  if c.isDigit then some (c.toNat - 48)
  else if 'a' ≤ c ∧ c ≤ 'f' then some (c.toNat - 87)
  else if 'A' ≤ c ∧ c ≤ 'F' then some (c.toNat - 55)
  else none

private def unhexChars : List Char → Option Bytes
  | [] => some []
  | a :: b :: rest => do
    let high ← hexValue? a
    let low ← hexValue? b
    let bytes ← unhexChars rest
    return UInt8.ofNat (16 * high + low) :: bytes
  | [_] => none

def unhex? (s : String) : Option Bytes := unhexChars s.toList

/-- How many continuation bytes a lead byte asks for, and the range of the first of them. -/
private def leadShape (b : UInt8) : Option (Nat × UInt8 × UInt8) :=
  if 0xC2 ≤ b ∧ b ≤ 0xDF then some (1, 0x80, 0xBF)
  else if b = 0xE0 then some (2, 0xA0, 0xBF)
  else if b = 0xED then some (2, 0x80, 0x9F)
  else if 0xE1 ≤ b ∧ b ≤ 0xEF then some (2, 0x80, 0xBF)
  else if b = 0xF0 then some (3, 0x90, 0xBF)
  else if 0xF1 ≤ b ∧ b ≤ 0xF3 then some (3, 0x80, 0xBF)
  else if b = 0xF4 then some (3, 0x80, 0x8F)
  else none

/-- Reads up to `missing` continuation bytes; gives the code point if all were there. -/
private def continuation (missing : Nat) (low high : UInt8) (code : Nat) :
    Bytes → Option Nat × Nat
  | [] => (if missing = 0 then some code else none, 0)
  | b :: rest =>
    match missing with
    | 0 => (some code, 0)
    | missing + 1 =>
      if low ≤ b ∧ b ≤ high then
        let (value, used) := continuation missing 0x80 0xBF (code * 64 + (b.toNat - 0x80)) rest
        (value, used + 1)
      else (none, 0)

/-- The character at the front, or `none` for an ill-formed part, and the bytes it takes. -/
private def frontChar (b : UInt8) (rest : Bytes) : Option Char × Nat :=
  if b < 0x80 then (some (Char.ofNat b.toNat), 0)
  else match leadShape b with
    | none => (none, 0)
    | some (more, low, high) =>
      let bits := b.toNat - (if more = 1 then 0xC0 else if more = 2 then 0xE0 else 0xF0)
      let (value, used) := continuation more low high bits rest
      (value.map Char.ofNat, used)

def decodeLossyChars : Bytes → List Char
  | [] => []
  | b :: rest =>
    let (value, used) := frontChar b rest
    value.getD '\uFFFD' :: decodeLossyChars (rest.drop used)
termination_by bytes => bytes.length
decreasing_by simp only [List.length_drop, List.length_cons]; omega

def decodeLossy (bytes : Bytes) : String := String.ofList (decodeLossyChars bytes)

def decodeChars? : Bytes → Option (List Char)
  | [] => some []
  | b :: rest =>
    let (value, used) := frontChar b rest
    match value, decodeChars? (rest.drop used) with
    | some c, some cs => some (c :: cs)
    | _, _ => none
termination_by bytes => bytes.length
decreasing_by simp only [List.length_drop, List.length_cons]; omega

def decode? (bytes : Bytes) : Option String := (decodeChars? bytes).map String.ofList

end DualServer.Text
