import LiveSurface.Proofs.Message.Escape
/-!
# Batches as text and as octets

Octets are decoded with replacement before anything else happens to them, and the size of a batch is counted on the
decoded text. For octets that encode a text neither shows: the decoder gives the text back, whatever the lengths of its
characters, and the size counted is the number of octets.

A character in UTF-8 is a first octet, which says how many tails follow and bounds the first of them, and then the
tails, each with six bits of the code point. The bounds keep out long forms, surrogates and what is past U+10FFFF; no
character has any of these, so its own tails are within the bounds.

Results:
* `Text.Utf8.decodeFrom_tails`: the decoder on the tails of a character.
* `Text.Utf8.encodes_utf8EncodeChar`: the encoding of a character is one that the decoder reads.
* `Text.Utf8.decode_toUTF8`: the decoder undoes the encoding of a text.
* `Batch.parse_octets_toUTF8`: a text and its octets are parsed alike, and refused as too large at the same size.
-/
namespace LiveSurface

namespace Text.Utf8

/-! ## One character -/

/-- The last octets of a code point, each with six of its bits. -/
def tails (v : Nat) : Nat → List UInt8
  | 0 => []
  | n + 1 => UInt8.ofNat (v / 64 ^ n % 64 + 128) :: tails v n

theorem tails_one (v : Nat) : tails v 1 = [UInt8.ofNat (v % 64 + 128)] := by
  rw [tails, Nat.pow_zero, Nat.div_one]
  rfl

theorem tails_two (v : Nat) : tails v 2 = UInt8.ofNat (v / 64 % 64 + 128) :: tails v 1 := rfl

theorem tails_three (v : Nat) : tails v 3 = UInt8.ofNat (v / 4096 % 64 + 128) :: tails v 2 := rfl

theorem toNat_tail (x : Nat) : (UInt8.ofNat (x % 64 + 128)).toNat = x % 64 + 128 := by
  rw [UInt8.toNat_ofNat']
  omega

/-- The bits of the next tail come below the bits so far. -/
theorem div_pow_step (v n : Nat) : v / 64 ^ (n + 1) * 64 + v / 64 ^ n % 64 = v / 64 ^ n := by
  rw [Nat.pow_succ, ← Nat.div_div_eq_div_mul]
  omega

/-- Reading the tails of a code point completes it, if the first tail is within its bounds. The others always are. -/
theorem decodeFrom_tails (v : Nat) (rest : List UInt8) (n low high : Nat) (hlow : low ≤ v / 64 ^ n % 64 + 128)
    (hhigh : v / 64 ^ n % 64 + 128 ≤ high) :
    decodeFrom (some ⟨v / 64 ^ (n + 1), n + 1, low, high⟩) (tails v (n + 1) ++ rest) =
      Char.ofNat v :: decodeFrom none rest := by
  induction n generalizing low high with
  | zero =>
    have hbits := div_pow_step v 0
    rw [tails, List.cons_append, decodeFrom, toNat_tail, if_pos ⟨hlow, hhigh⟩, if_pos (Nat.le_refl 1),
      Nat.add_sub_cancel, hbits, Nat.pow_zero, Nat.div_one]
    rfl
  | succ n ih =>
    have hnext : v / 64 ^ n % 64 < 64 := Nat.mod_lt _ (by decide)
    rw [tails, List.cons_append, decodeFrom, toNat_tail, if_pos ⟨hlow, hhigh⟩,
      if_neg (Nat.not_le_of_lt (Nat.le_add_left 2 n)), Nat.add_sub_cancel, div_pow_step]
    exact ih 0x80 0xBF (by omega) (by omega)

/-- Octets that the decoder reads as one character: a first octet and the tails that it asks for. -/
inductive Encodes (c : Char) : List UInt8 → Prop
  | whole {b : UInt8} (h : lead b.toNat = .whole c) : Encodes c [b]
  | begun {b : UInt8} (n low high : Nat)
    (h : lead b.toNat = .begun ⟨c.toNat / 64 ^ (n + 1), n + 1, low, high⟩)
    (hlow : low ≤ c.toNat / 64 ^ n % 64 + 128) (hhigh : c.toNat / 64 ^ n % 64 + 128 ≤ high) :
    Encodes c (b :: tails c.toNat (n + 1))

theorem Encodes.decodeFrom_append {c : Char} {octets : List UInt8} (h : Encodes c octets) (rest : List UInt8) :
    decodeFrom none (octets ++ rest) = c :: decodeFrom none rest := by
  cases h with
  | whole h => rw [List.singleton_append, decodeFrom, h]
  | begun n low high h hlow hhigh =>
    have htails := decodeFrom_tails c.toNat rest n low high hlow hhigh
    rw [c.ofNat_toNat] at htails
    rw [List.cons_append, decodeFrom, h]
    exact htails

/-! ## First octets -/

section
variable {v : Nat}

theorem lead_of_two (h : 0x80 ≤ v) (hv : v ≤ 0x7FF) : lead (v / 64 + 0xC0) = .begun ⟨v / 64, 1, 0x80, 0xBF⟩ := by
  rw [lead, if_neg (by omega), if_pos (by omega), Nat.add_sub_cancel]

/-- Below 0x800 a first tail would be under 0xA0 after 0xE0, and surrogates would have one over 0x9F after 0xED. -/
theorem exists_lead_of_three (h : 0x800 ≤ v) (hv : v ≤ 0xFFFF) (hvalid : v.isValidChar) :
    ∃ low high, lead (v / 4096 + 0xE0) = .begun ⟨v / 4096, 2, low, high⟩ ∧ low ≤ v / 64 % 64 + 128 ∧
      v / 64 % 64 + 128 ≤ high := by
  unfold Nat.isValidChar at hvalid
  have hfirst : v / 4096 = v / 64 / 64 := by omega
  by_cases hzero : v / 4096 = 0
  · refine ⟨0xA0, 0xBF, ?_, by omega, by omega⟩
    rw [hzero]
    rfl
  by_cases hsurrogate : v / 4096 = 0xD
  · refine ⟨0x80, 0x9F, ?_, by omega, by omega⟩
    rw [hsurrogate]
    rfl
  · refine ⟨0x80, 0xBF, ?_, by omega, by omega⟩
    rw [lead, if_neg (by omega), if_neg (by omega), if_neg (by omega), if_neg (by omega), if_pos (by omega),
      Nat.add_sub_cancel]

/-- Below 0x10000 a first tail would be under 0x90 after 0xF0, and past 0x10FFFF it would be over 0x8F after 0xF4. -/
theorem exists_lead_of_four (h : 0x10000 ≤ v) (hvalid : v.isValidChar) :
    ∃ low high, lead (v / 262144 + 0xF0) = .begun ⟨v / 262144, 3, low, high⟩ ∧ low ≤ v / 4096 % 64 + 128 ∧
      v / 4096 % 64 + 128 ≤ high := by
  unfold Nat.isValidChar at hvalid
  have hfirst : v / 262144 = v / 4096 / 64 := by omega
  by_cases hzero : v / 262144 = 0
  · refine ⟨0x90, 0xBF, ?_, by omega, by omega⟩
    rw [hzero]
    rfl
  by_cases hlast : v / 262144 = 4
  · refine ⟨0x80, 0x8F, ?_, by omega, by omega⟩
    rw [hlast]
    rfl
  · refine ⟨0x80, 0xBF, ?_, by omega, by omega⟩
    rw [lead, if_neg (by omega), if_neg (by omega), if_neg (by omega), if_neg (by omega), if_neg (by omega),
      if_neg (by omega), if_pos (by omega), Nat.add_sub_cancel]

end

/-- The encoding of a character is read as that character, in each of the four lengths. -/
theorem encodes_utf8EncodeChar (c : Char) : Encodes c (String.utf8EncodeChar c) := by
  have hvalid : c.toNat.isValidChar := c.valid
  rw [String.utf8EncodeChar.eq_1, show c.val.toNat = c.toNat from rfl]
  split
  · next hv =>
    refine .whole ?_
    rw [UInt8.toNat_ofNat', Nat.mod_eq_of_lt (by omega), lead, if_pos hv, c.ofNat_toNat]
  split
  · next hv =>
    have hfirst : (UInt8.ofNat (c.toNat / 64 % 32 + 192)).toNat = c.toNat / 64 + 192 := by
      rw [UInt8.toNat_ofNat']
      omega
    rw [← tails_one]
    exact .begun 0 0x80 0xBF (hfirst ▸ lead_of_two (by omega) hv) (by omega) (by omega)
  split
  · next hv =>
    have hfirst : (UInt8.ofNat (c.toNat / 4096 % 16 + 224)).toNat = c.toNat / 4096 + 224 := by
      rw [UInt8.toNat_ofNat']
      omega
    obtain ⟨low, high, hlead, hlow, hhigh⟩ := exists_lead_of_three (by omega) hv hvalid
    rw [← tails_one, ← tails_two]
    exact .begun 1 low high (hfirst ▸ hlead) hlow hhigh
  · have hmax : c.toNat < 0x110000 := by
      unfold Nat.isValidChar at hvalid
      omega
    have hfirst : (UInt8.ofNat (c.toNat / 262144 % 8 + 240)).toNat = c.toNat / 262144 + 240 := by
      rw [UInt8.toNat_ofNat']
      omega
    obtain ⟨low, high, hlead, hlow, hhigh⟩ := exists_lead_of_four (by omega) hvalid
    rw [← tails_one, ← tails_two, ← tails_three]
    exact .begun 2 low high (hfirst ▸ hlead) hlow hhigh

/-! ## Texts -/

theorem decodeFrom_flatMap (cs : List Char) : decodeFrom none (cs.flatMap String.utf8EncodeChar) = cs := by
  induction cs with
  | nil => rfl
  | cons c rest ih => rw [List.flatMap_cons, (encodes_utf8EncodeChar c).decodeFrom_append, ih]

theorem toList_toUTF8 (text : String) : text.toUTF8.data.toList = text.toList.flatMap String.utf8EncodeChar := by
  rw [String.toUTF8_eq_toByteArray, ← String.utf8Encode_toList, List.utf8Encode, List.data_toByteArray]

/-- Decoding undoes the encoding of a text: nothing is replaced. -/
theorem decode_toUTF8 (text : String) : decode text.toUTF8.data.toList = text := by
  rw [decode, toList_toUTF8, decodeFrom_flatMap, String.ofList_toList]

theorem length_toUTF8 (text : String) : text.toUTF8.data.toList.length = text.utf8ByteSize := rfl

end Text.Utf8

namespace Batch

variable {settings : Settings} {text : String} {size : Json.Oversize}

/-- Whatever goes wrong in the elements is the error of one of them. -/
theorem exists_of_parseElements_error {index : Int} {elements : List Json} {e : BatchError}
    (h : (parseElements index elements).result = .error e) : ∃ cause, e = ofElementError cause := by
  induction elements generalizing index with
  | nil => cases h
  | cons v rest ih =>
    rw [parseElements, Logged.result_bind] at h
    rcases Json.error_of_bind h with h | ⟨message?, -, h⟩
    · cases hv : (Message.parse v index).result with
      | error cause =>
        rw [Logged.mapError, hv] at h
        cases h
        exact ⟨cause, rfl⟩
      | ok message? =>
        rw [Logged.mapError, hv] at h
        cases h
    · rw [Logged.result_bind] at h
      rcases Json.error_of_bind h with h | ⟨messages, -, h⟩
      · exact ih h
      · cases h

theorem decode_ne_oversize (h : text.utf8ByteSize ≤ settings.maxBatchBytes) :
    (decode settings text).result ≠ .error (.unprocessable (.oversize size)) := by
  have hsize : ¬(settings.maxBatchBytes : Int) < text.utf8ByteSize := by omega
  simp only [decode, Json.checkSize, if_neg hsize]
  intro h
  cases hextract : Json.extract text false with
  | ok v =>
    rw [hextract] at h
    cases h
  | error reason =>
    rw [hextract] at h
    cases reason <;> cases h

/-- Once a batch has been decoded, its size is no matter any more. -/
theorem parseValue_ne_oversize (v : Json) :
    (parseValue settings v).result ≠ .error (.unprocessable (.oversize size)) := by
  cases v with
  | arr elements =>
    by_cases hwithin : IsWithin settings elements
    · rw [parseValue_of_isWithin hwithin]
      intro h
      obtain ⟨cause, hcause⟩ := exists_of_parseElements_error h
      rcases cause with _ | (_ | _) <;> cases hcause
    · obtain ⟨fault, hfault, hr⟩ := parseValue_of_not_isWithin hwithin
      rw [hr]
      rintro ⟨⟩
      simp at hfault
  | _ => exact fun h => nomatch h

theorem parse_text_oversize_iff : (parse settings (.text text)).result = .error (.unprocessable (.oversize size)) ↔
    settings.maxBatchBytes < text.utf8ByteSize ∧
      size = ⟨"Message batch", text.utf8ByteSize, settings.maxBatchBytes⟩ := by
  rw [parse, Logged.result_bind, value]
  by_cases hsize : settings.maxBatchBytes < text.utf8ByteSize
  · rw [decode_of_oversize hsize, and_iff_right hsize]
    constructor
    · rintro ⟨⟩
      rfl
    · rintro rfl
      rfl
  · refine iff_of_false (fun h => ?_) fun h => hsize h.1
    rcases Json.error_of_bind h with h | ⟨v, -, h⟩
    · exact decode_ne_oversize (Nat.le_of_not_lt hsize) h
    · exact parseValue_ne_oversize v h

/-- **Octets and text agree.** A text and its octets in UTF-8 are parsed alike: with the same messages or the same
error, and with the same events. Both are refused as too large exactly if there are more octets than allowed, and the
refusal tells their number. -/
theorem parse_octets_toUTF8 (settings : Settings) (text : String) :
    parse settings (.octets text.toUTF8.data.toList) = parse settings (.text text) ∧
      ∀ size, (parse settings (.octets text.toUTF8.data.toList)).result = .error (.unprocessable (.oversize size)) ↔
        settings.maxBatchBytes < text.toUTF8.data.toList.length ∧
          size = ⟨"Message batch", text.toUTF8.data.toList.length, settings.maxBatchBytes⟩ := by
  have hparse : parse settings (.octets text.toUTF8.data.toList) = parse settings (.text text) := by
    rw [parse, value, Text.Utf8.decode_toUTF8]
    rfl
  refine ⟨hparse, fun size => ?_⟩
  rw [hparse, Text.Utf8.length_toUTF8]
  exact parse_text_oversize_iff

end Batch

end LiveSurface
