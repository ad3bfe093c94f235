import Linewatch.Text.Utf8

namespace Linewatch.Utf8

def decodeFrom : State → List UInt8 → List (Option Char)
  | .start, [] => []
  | .inside .., [] => [none]
  | s, b :: rest => (step b s).1 ++ decodeFrom (step b s).2 rest

theorem decodeFrom_cons (s : State) (b : UInt8) (rest : List UInt8) :
    decodeFrom s (b :: rest) = (step b s).1 ++ decodeFrom (step b s).2 rest := by
  cases s <;> rfl

/-- The characters that a finished run of the machine has, after those it began with. -/
theorem foldl_feed (bytes : List UInt8) (done : Array (Option Char)) (s : State) :
    (match bytes.foldl feed (done, s) with
      | (chars, .start) => chars.toList
      | (chars, .inside ..) => (chars.push none).toList) = done.toList ++ decodeFrom s bytes := by
  induction bytes generalizing done s with
  | nil => cases s <;> simp [decodeFrom]
  | cons b rest ih =>
    have hf : feed (done, s) b = (done ++ (step b s).1, (step b s).2) := rfl
    rw [List.foldl_cons, hf, decodeFrom_cons, ih, Array.toList_appendList, List.append_assoc]

theorem decode_eq (bytes : List UInt8) : decode bytes = decodeFrom .start bytes := by
  refine Eq.trans ?_ (foldl_feed bytes #[] .start)
  unfold decode
  cases bytes.foldl feed (#[], .start) with
  | mk chars s => cases s <;> rfl

section

variable {least most : UInt8} {value n : Nat} (hl : least.toNat ≤ n) (hm : n ≤ most.toNat)
include hl hm

theorem toNat_ofNat_of_le : (UInt8.ofNat n).toNat = n := by
  have := most.toNat_lt
  simp only [UInt8.toNat_ofNat']
  omega

theorem decodeFrom_last (rest : List UInt8) :
    decodeFrom (.inside 1 least most value) (.ofNat n :: rest) =
      some (.ofNat (64 * value + n % 64)) :: decodeFrom .start rest := by
  have hn := toNat_ofNat_of_le hl hm
  have hb : least ≤ .ofNat n ∧ .ofNat n ≤ most := by
    rw [UInt8.le_iff_toNat_le, UInt8.le_iff_toNat_le, hn]
    exact ⟨hl, hm⟩
  rw [decodeFrom_cons, step, if_pos hb, if_pos rfl, hn]
  rfl

theorem decodeFrom_more (owed : Nat) (rest : List UInt8) :
    decodeFrom (.inside (owed + 2) least most value) (.ofNat n :: rest) =
      decodeFrom (.inside (owed + 1) 0x80 0xBF (64 * value + n % 64)) rest := by
  have hn := toNat_ofNat_of_le hl hm
  have hb : least ≤ .ofNat n ∧ .ofNat n ≤ most := by
    rw [UInt8.le_iff_toNat_le, UInt8.le_iff_toNat_le, hn]
    exact ⟨hl, hm⟩
  rw [decodeFrom_cons, step, if_pos hb, if_neg (by omega), hn]
  rfl

end

theorem first_one {n : Nat} (h : n < 0x80) : first (.ofNat n) = ([some (.ofNat n)], .start) := by
  have hb : (UInt8.ofNat n) < 0x80 := by simp [UInt8.lt_iff_toNat_lt]; omega
  rw [first, if_pos hb, UInt8.toNat_ofNat', Nat.mod_eq_of_lt (by omega)]

theorem first_two {n : Nat} (h : 0xC2 ≤ n) (h' : n < 0xE0) :
    first (.ofNat n) = ([], .inside 1 0x80 0xBF (n % 32)) := by
  have hn : (UInt8.ofNat n).toNat = n := by simp; omega
  simp only [first, UInt8.lt_iff_toNat_lt, hn]
  rw [if_neg, if_neg, if_pos] <;> simp <;> omega

theorem exists_first_three {v : Nat} (h : 0x800 ≤ v) (h' : v ≤ 0xFFFF)
    (hs : v < 0xD800 ∨ 0xDFFF < v) :
    ∃ least most, first (.ofNat (v / 4096 % 16 + 0xE0)) = ([], .inside 2 least most (v / 4096)) ∧
      least.toNat ≤ v / 64 % 64 + 0x80 ∧ v / 64 % 64 + 0x80 ≤ most.toNat := by
  have hn : (UInt8.ofNat (v / 4096 % 16 + 0xE0)).toNat = v / 4096 % 16 + 0xE0 := by simp; omega
  simp only [first, UInt8.lt_iff_toNat_lt, ← UInt8.toNat_inj, hn]
  rw [if_neg (by simp), if_neg (by simp), if_neg (by simp)]
  by_cases h0 : v / 4096 = 0
  · refine ⟨0xA0, 0xBF, ?_, ?_⟩
    · rw [if_pos (by simp [h0]), h0]
    · simp; omega
  · rw [if_neg (by simp; omega)]
    by_cases hd : v / 4096 = 13
    · refine ⟨0x80, 0x9F, ?_, ?_⟩
      · rw [if_pos (by simp [hd]), hd]
      · simp; omega
    · refine ⟨0x80, 0xBF, ?_, ?_⟩
      · rw [if_neg (by simp; omega), if_pos (by simp; omega)]
        congr 2
        omega
      · simp; omega

theorem exists_first_four {v : Nat} (h : 0xFFFF < v) (h' : v < 0x110000) :
    ∃ least most, first (.ofNat (v / 262144 % 8 + 0xF0)) = ([], .inside 3 least most (v / 262144)) ∧
      least.toNat ≤ v / 4096 % 64 + 0x80 ∧ v / 4096 % 64 + 0x80 ≤ most.toNat := by
  have hn : (UInt8.ofNat (v / 262144 % 8 + 0xF0)).toNat = v / 262144 % 8 + 0xF0 := by simp; omega
  simp only [first, UInt8.lt_iff_toNat_lt, ← UInt8.toNat_inj, hn]
  rw [if_neg (by simp), if_neg (by simp), if_neg (by simp), if_neg (by simp), if_neg (by simp),
    if_neg (by simp)]
  by_cases h0 : v / 262144 = 0
  · refine ⟨0x90, 0xBF, ?_, ?_⟩
    · rw [if_pos (by simp [h0]), h0]
    · simp; omega
  · rw [if_neg (by simp; omega)]
    by_cases h4 : v / 262144 = 4
    · refine ⟨0x80, 0x8F, ?_, ?_⟩
      · rw [if_neg (by simp; omega), if_pos (by simp [h4]), h4]
      · simp; omega
    · refine ⟨0x80, 0xBF, ?_, ?_⟩
      · rw [if_pos (by simp; omega)]
        congr 2
        omega
      · simp; omega

theorem decodeFrom_utf8EncodeChar (c : Char) (rest : List UInt8) :
    decodeFrom .start (String.utf8EncodeChar c ++ rest) = some c :: decodeFrom .start rest := by
  have hv : c.toNat < 0xD800 ∨ 0xDFFF < c.toNat ∧ c.toNat < 0x110000 := c.valid
  have hc : Char.ofNat c.toNat = c := Char.ofNat_toNat c
  have ht : c.val.toNat = c.toNat := rfl
  have hlast : (0x80 : UInt8).toNat ≤ c.toNat % 64 + 0x80 ∧
      c.toNat % 64 + 0x80 ≤ (0xBF : UInt8).toNat := by simp; omega
  have hmid : (0x80 : UInt8).toNat ≤ c.toNat / 64 % 64 + 0x80 ∧
      c.toNat / 64 % 64 + 0x80 ≤ (0xBF : UInt8).toNat := by simp; omega
  rw [String.utf8EncodeChar, ht]
  generalize c.toNat = v at *
  by_cases h1 : v ≤ 0x7F
  · rw [if_pos h1, List.singleton_append, decodeFrom_cons, step, first_one (by omega), hc]
    rfl
  rw [if_neg h1]
  by_cases h2 : v ≤ 0x7FF
  · rw [if_pos h2, List.cons_append, decodeFrom_cons, step, first_two (by omega) (by omega),
      List.singleton_append, List.nil_append, decodeFrom_last hlast.1 hlast.2]
    have hs : 64 * ((v / 64 % 32 + 0xC0) % 32) + (v % 64 + 0x80) % 64 = v := by omega
    rw [hs, hc]
  rw [if_neg h2]
  by_cases h3 : v ≤ 0xFFFF
  · obtain ⟨least, most, hf, hl, hm⟩ := exists_first_three (v := v) (by omega) h3 (by omega)
    rw [if_pos h3, List.cons_append, decodeFrom_cons, step, hf, List.cons_append,
      List.singleton_append, List.nil_append, decodeFrom_more hl hm,
      decodeFrom_last hlast.1 hlast.2]
    have hs : 64 * (64 * (v / 4096) + (v / 64 % 64 + 0x80) % 64) + (v % 64 + 0x80) % 64 = v := by
      omega
    rw [hs, hc]
  · obtain ⟨least, most, hf, hl, hm⟩ := exists_first_four (v := v) (by omega) (by omega)
    rw [if_neg h3, List.cons_append, decodeFrom_cons, step, hf, List.cons_append, List.cons_append,
      List.singleton_append, List.nil_append, decodeFrom_more hl hm,
      decodeFrom_more hmid.1 hmid.2, decodeFrom_last hlast.1 hlast.2]
    have hs : 64 * (64 * (64 * (v / 262144) + (v / 4096 % 64 + 0x80) % 64) +
        (v / 64 % 64 + 0x80) % 64) + (v % 64 + 0x80) % 64 = v := by omega
    rw [hs, hc]

theorem decodeFrom_flatMap_utf8EncodeChar (text : List Char) :
    decodeFrom .start (text.flatMap String.utf8EncodeChar) = text.map some := by
  induction text with
  | nil => rfl
  | cons c text ih => rw [List.flatMap_cons, decodeFrom_utf8EncodeChar, ih, List.map_cons]

theorem encode_eq (text : String) : encode text = text.toList.flatMap String.utf8EncodeChar := by
  rw [encode, String.toUTF8_eq_toByteArray, ← String.utf8Encode_toList]
  exact List.toList_data_toByteArray

theorem decode_encode (text : String) : decode (encode text) = text.toList.map some := by
  rw [decode_eq, encode_eq, decodeFrom_flatMap_utf8EncodeChar]

theorem decodeLossy_encode (text : String) : decodeLossy (encode text) = text.toList := by
  rw [decodeLossy, decode_encode, List.map_map]
  exact List.map_id _

theorem decode?_encode (text : String) : decode? (encode text) = some text.toList := by
  rw [decode?, decode_encode, List.foldr_map]
  induction text.toList with
  | nil => rfl
  | cons c l ih => rw [List.foldr_cons, ih]; rfl

end Linewatch.Utf8
