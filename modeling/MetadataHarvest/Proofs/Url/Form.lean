import MetadataHarvest.Proofs.Text.Scan
import MetadataHarvest.Url.Form

/-!
# Form encoding is read back

Names and values are recovered from the query in which they are written, whatever their
characters. A character is written so that decoding gives its bytes, before whatever follows,
and no written name or value has a character that separates.

## Implementation notes

Decoding turns plus signs into spaces before it looks for percent signs, so both steps are stated
together, for a written character with a rest after it.
-/

namespace MetadataHarvest

namespace Text

theorem utf8_append (front back : List Char) : utf8 (front ++ back) = utf8 front ++ utf8 back :=
  List.flatMap_append

theorem toByteArray_eq_utf8 (s : String) :
    s.toByteArray = (⟨(utf8 s.toList).toArray⟩ : ByteArray) := by
  rw [← congrArg String.toByteArray (String.ofList_toList (s := s))]
  apply ByteArray.ext
  simp [utf8, String.ofList, List.utf8Encode, List.data_toByteArray]

/-- A text is recovered from its bytes. -/
theorem ofUtf8?_utf8 (s : String) : ofUtf8? (utf8 s.toList) = some s := by
  rw [ofUtf8?, String.fromUTF8?, ← toByteArray_eq_utf8, dif_pos s.isValidUTF8]
  rfl

/-- A text that was read from bytes has these bytes. -/
theorem utf8_of_ofUtf8? {bytes : List UInt8} {s : String} (h : ofUtf8? bytes = some s) :
    utf8 s.toList = bytes := by
  have hbytes : s.toByteArray = (⟨bytes.toArray⟩ : ByteArray) := by
    unfold ofUtf8? String.fromUTF8? at h
    split at h
    · exact (congrArg String.toByteArray (Option.some.inj h)).symm
    · cases h
  rw [toByteArray_eq_utf8, ByteArray.mk.injEq] at hbytes
  simpa using congrArg Array.toList hbytes

end Text

namespace Url

open Number Text

theorem percentDecode_cons {byte : UInt8} (h : byte ≠ 0x25) (rest : List UInt8) :
    percentDecode (byte :: rest) = byte :: percentDecode rest := by
  rw [percentDecode]
  rintro high low tail rfl
  exact absurd rfl h

theorem hexByte?_of_high {high : UInt8} (h : digit? 16 (Char.ofNat high.toNat) = none)
    (low : UInt8) : hexByte? high low = none := by
  rw [hexByte?, h]
  rfl

theorem hexByte?_of_low {low : UInt8} (h : digit? 16 (Char.ofNat low.toNat) = none)
    (high : UInt8) : hexByte? high low = none := by
  unfold hexByte?
  cases digit? 16 (Char.ofNat high.toNat) with
  | none => rfl
  | some value =>
      rw [h]
      rfl

/-- A byte that is neither a percent sign nor a hexadecimal digit is not lost. -/
theorem mem_percentDecode {byte : UInt8} (hpercent : byte ≠ 0x25)
    (hdigit : digit? 16 (Char.ofNat byte.toNat) = none) {bytes : List UInt8} (h : byte ∈ bytes) :
    byte ∈ percentDecode bytes := by
  fun_induction percentDecode bytes with
  | case1 => exact h
  | case2 high low rest value hvalue ih =>
      have hne : byte ≠ high ∧ byte ≠ low := by
        constructor
        · rintro rfl
          rw [hexByte?_of_high hdigit] at hvalue
          cases hvalue
        · rintro rfl
          rw [hexByte?_of_low hdigit] at hvalue
          cases hvalue
      have hrest : byte ∈ rest := by simpa [hpercent, hne.1, hne.2] using h
      exact List.mem_cons_of_mem _ (ih hrest)
  | case3 high low rest _ ih =>
      rcases List.mem_cons.mp h with hfirst | hmore
      · exact absurd hfirst hpercent
      · exact List.mem_cons_of_mem _ (ih hmore)
  | case4 first rest _ ih =>
      rcases List.mem_cons.mp h with rfl | hmore
      · exact List.mem_cons_self
      · exact List.mem_cons_of_mem _ (ih hmore)

/-- A hexadecimal digit is one byte, no plus sign, and has the value that it was written for. -/
theorem hexDigit_cases : ∀ n < 16, hexDigit n ≠ '+' ∧
    String.utf8EncodeChar (hexDigit n) = [UInt8.ofNat (hexDigit n).toNat] ∧
      digit? 16 (Char.ofNat (UInt8.ofNat (hexDigit n).toNat).toNat) = some n := by
  decide

/-- A written byte is read as the byte. -/
theorem percentDecode_percentEncode (byte : UInt8) (rest : List UInt8) :
    percentDecode (utf8 (percentEncode byte) ++ rest) = byte :: percentDecode rest := by
  have hlt := byte.toNat_lt
  obtain ⟨-, hhigh, hhighValue⟩ := hexDigit_cases (byte.toNat / 16) (by omega)
  obtain ⟨-, hlow, hlowValue⟩ := hexDigit_cases (byte.toNat % 16) (by omega)
  have hpercent : String.utf8EncodeChar '%' = [0x25] := by decide
  have hvalue : byte.toNat / 16 * 16 + byte.toNat % 16 = byte.toNat := Nat.div_add_mod' _ _
  have hbyte : hexByte? (UInt8.ofNat (hexDigit (byte.toNat / 16)).toNat)
      (UInt8.ofNat (hexDigit (byte.toNat % 16)).toNat) = some byte := by
    simp only [hexByte?, hhighValue, hlowValue, Option.bind_eq_bind, Option.bind_some, hvalue,
      UInt8.ofNat_toNat, Option.pure_def]
  simp only [percentEncode, utf8, List.flatMap_cons, List.flatMap_nil, hpercent, hhigh, hlow,
    List.append_nil, List.cons_append, List.nil_append]
  rw [percentDecode, hbyte]

namespace Form

/-- The bytes of a query with its plus signs read as spaces. -/
def bytes (cs : List Char) : List UInt8 := utf8 (cs.map fun c => if c = '+' then ' ' else c)

theorem decode?_eq (cs : List Char) : decode? cs = ofUtf8? (percentDecode (bytes cs)) := rfl

theorem bytes_append (front back : List Char) :
    bytes (front ++ back) = bytes front ++ bytes back := by
  rw [bytes, List.map_append, utf8_append, bytes, bytes]

theorem bytes_of_plus_not_mem {cs : List Char} (h : '+' ∉ cs) : bytes cs = utf8 cs := by
  have hmap : cs.map (fun c => if c = '+' then ' ' else c) = cs.map id := by
    apply List.map_congr_left
    intro c hc
    apply if_neg
    rintro rfl
    exact h hc
  rw [bytes, hmap, List.map_id]

theorem plus_not_mem_percentEncode (byte : UInt8) : '+' ∉ percentEncode byte := by
  have hlt := byte.toNat_lt
  have hhigh := (hexDigit_cases (byte.toNat / 16) (by omega)).1
  have hlow := (hexDigit_cases (byte.toNat % 16) (by omega)).1
  simp [percentEncode, Ne.symm hhigh, Ne.symm hlow]

/-- Written bytes are read as the bytes. -/
theorem percentDecode_bytes_flatMap (written rest : List UInt8) :
    percentDecode (bytes (written.flatMap percentEncode) ++ rest) =
      written ++ percentDecode rest := by
  induction written with
  | nil => rfl
  | cons byte written ih =>
      rw [List.flatMap_cons, bytes_append,
        bytes_of_plus_not_mem (plus_not_mem_percentEncode byte), List.append_assoc,
        percentDecode_percentEncode, ih]
      rfl

theorem toNat_lt_of_isPlain {c : Char} (h : isPlain c = true) : c.toNat < 128 := by
  simp only [isPlain, Bool.or_eq_true, beq_iff_eq] at h
  rcases h with (((h | rfl) | rfl) | rfl) | rfl
  · exact toNat_lt_of_isAlphanum h
  all_goals decide

/-- A character that stands for itself is one byte and none of those with another meaning. -/
theorem bytes_of_isPlain {c : Char} (h : isPlain c = true) :
    ∃ byte, utf8 [c] = [byte] ∧ bytes [c] = [byte] ∧ byte ≠ 0x25 := by
  have hascii := toNat_lt_of_isPlain h
  refine ⟨UInt8.ofNat c.toNat, ?_⟩
  revert h
  exact forall_ascii hascii (by decide +kernel)

/-- A written character is read as its bytes. -/
theorem percentDecode_bytes_encodeChar (c : Char) (rest : List UInt8) :
    percentDecode (bytes (encodeChar c) ++ rest) = utf8 [c] ++ percentDecode rest := by
  unfold encodeChar
  split
  · next hspace =>
      subst hspace
      have hbytes : bytes ['+'] = utf8 [' '] := by decide
      have hutf8 : utf8 [' '] = [0x20] := by decide
      rw [hbytes, hutf8, List.singleton_append, percentDecode_cons (by decide)]
      rfl
  split
  · next hplain =>
      obtain ⟨byte, hutf8, hbytes, hne⟩ := bytes_of_isPlain hplain
      rw [hutf8, hbytes, List.singleton_append, percentDecode_cons hne]
      rfl
  · exact percentDecode_bytes_flatMap _ rest

/-- A written name or value is read as it was. -/
theorem decode?_encode (s : String) : decode? (encode s) = some s := by
  have hbytes (cs : List Char) : percentDecode (bytes (cs.flatMap encodeChar)) = utf8 cs := by
    induction cs with
    | nil => rfl
    | cons c cs ih =>
        calc percentDecode (bytes ((c :: cs).flatMap encodeChar))
            = percentDecode (bytes (encodeChar c) ++ bytes (cs.flatMap encodeChar)) := by
              rw [List.flatMap_cons, bytes_append]
          _ = utf8 [c] ++ utf8 cs := by rw [percentDecode_bytes_encodeChar, ih]
          _ = utf8 (c :: cs) := (utf8_append [c] cs).symm
  rw [decode?_eq, encode, hbytes, ofUtf8?_utf8]

/-- A written name or value has plain characters, percent signs and plus signs only. -/
theorem of_mem_encode {s : String} {c : Char} (h : c ∈ encode s) :
    isPlain c = true ∨ c = '%' ∨ c = '+' := by
  obtain ⟨d, -, hc⟩ := List.mem_flatMap.mp h
  unfold encodeChar at hc
  split at hc
  · exact .inr (.inr (List.mem_singleton.mp hc))
  split at hc
  · next hplain =>
      rw [List.mem_singleton.mp hc]
      exact .inl hplain
  · obtain ⟨byte, -, hbyte⟩ := List.mem_flatMap.mp hc
    have hlt := byte.toNat_lt
    have hdigits : ∀ n < 16, isPlain (hexDigit n) = true := by decide
    simp only [percentEncode, List.mem_cons, List.not_mem_nil, or_false] at hbyte
    rcases hbyte with rfl | rfl | rfl
    · exact .inr (.inl rfl)
    · exact .inl (hdigits _ (by omega))
    · exact .inl (hdigits _ (by omega))

theorem not_mem_encode {c : Char} (hplain : isPlain c = false) (hpercent : c ≠ '%')
    (hplus : c ≠ '+') (s : String) : c ∉ encode s := by
  intro h
  rcases of_mem_encode h with h | h | h
  · rw [hplain] at h
    cases h
  · exact hpercent h
  · exact hplus h

section Split

variable {separator : Char} {front : List Char}

theorem splitOn_of_not_mem (h : separator ∉ front) : splitOn separator front = [front] := by
  induction front with
  | nil => rfl
  | cons c front ih =>
      rw [List.mem_cons, not_or] at h
      rw [splitOn, if_neg (Ne.symm h.1), ih h.2]

/-- A part ends at the first separator. -/
theorem splitOn_append (h : separator ∉ front) (rest : List Char) :
    splitOn separator (front ++ separator :: rest) = front :: splitOn separator rest := by
  induction front with
  | nil => simp [splitOn]
  | cons c front ih =>
      rw [List.mem_cons, not_or] at h
      rw [List.cons_append, splitOn, if_neg (Ne.symm h.1), ih h.2]

/-- Parts that are joined by a separator are found again. -/
theorem splitOn_intercalate {part : List Char} {parts : List (List Char)}
    (h : ∀ p ∈ part :: parts, separator ∉ p) :
    splitOn separator ([separator].intercalate (part :: parts)) = part :: parts := by
  induction parts generalizing part with
  | nil =>
      rw [List.intercalate_singleton]
      exact splitOn_of_not_mem (h part List.mem_cons_self)
  | cons next parts ih =>
      rw [List.forall_mem_cons] at h
      rw [List.intercalate_cons_cons, List.append_assoc, List.singleton_append,
        splitOn_append h.1, ih h.2]

end Split

/-- A pair as it is written. -/
def encodePair (pair : String × String) : List Char := encode pair.1 ++ '=' :: encode pair.2

theorem not_mem_encodePair {c : Char} (hplain : isPlain c = false) (hpercent : c ≠ '%')
    (hplus : c ≠ '+') (hequals : c ≠ '=') (pair : String × String) : c ∉ encodePair pair := by
  simp [encodePair, not_mem_encode hplain hpercent hplus, hequals]

/-- The first equals sign of a written pair is the one between name and value. -/
theorem decode_encodePair (pair : String × String) :
    (decode? ((encodePair pair).takeWhile (· ≠ '=')),
        decode? (((encodePair pair).dropWhile (· ≠ '=')).drop 1)) =
      (some pair.1, some pair.2) := by
  have hname : ∀ c ∈ encode pair.1, decide (c ≠ '=') = true := by
    rintro c hc
    rw [decide_eq_true_eq]
    rintro rfl
    exact not_mem_encode (by decide) (by decide) (by decide) pair.1 hc
  have hrest : ∀ c ∈ ('=' :: encode pair.2).head?, decide (c ≠ '=') = false := by simp
  rw [encodePair, takeWhile_append_of_head? hname hrest, dropWhile_append_of_head? hname hrest,
    List.drop_one, List.tail_cons, decode?_encode, decode?_encode]

/-- Pairs that were written are read as they were, in their order. -/
theorem decodePairs_encodePairs (pairs : List (String × String)) :
    decodePairs (encodePairs pairs) = pairs.map fun pair => (some pair.1, some pair.2) := by
  have hparts : (splitOn '&' (encodePairs pairs)).filter (!·.isEmpty) = pairs.map encodePair := by
    have hencode : encodePairs pairs = ['&'].intercalate (pairs.map encodePair) := rfl
    rw [hencode]
    cases pairs with
    | nil => rfl
    | cons pair pairs =>
        rw [List.map_cons, splitOn_intercalate, List.filter_eq_self, ← List.map_cons,
          List.forall_mem_map]
        · intro p _
          simp [encodePair]
        · rw [← List.map_cons, List.forall_mem_map]
          exact fun p _ => not_mem_encodePair (by decide) (by decide) (by decide) (by decide) p
  rw [decodePairs, hparts, List.map_map]
  exact List.map_congr_left fun pair _ => decode_encodePair pair

/-- Written pairs have no character that would end the query. -/
theorem numberSign_not_mem_encodePairs (pairs : List (String × String)) :
    '#' ∉ encodePairs pairs := by
  have hpair : ∀ pair, '#' ∉ encodePair pair :=
    not_mem_encodePair (by decide) (by decide) (by decide) (by decide)
  have hjoined (parts : List (List Char)) (h : ∀ part ∈ parts, '#' ∉ part) :
      '#' ∉ ['&'].intercalate parts := by
    induction parts with
    | nil => simp
    | cons part parts ih =>
        rw [List.forall_mem_cons] at h
        cases parts with
        | nil => simpa using h.1
        | cons next parts =>
            rw [List.intercalate_cons_cons]
            simp [h.1, ih h.2]
  apply hjoined
  rw [List.forall_mem_map]
  exact fun pair _ => hpair pair

end Form

end Url

end MetadataHarvest
