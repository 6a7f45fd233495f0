import ParallelCorpus.Text.Bytes

/-!
# Bytes of texts

The bytes of a text in UTF-8 are those of its characters one after the other.  A byte
below 128 encodes a character of its own, and every other character is encoded by bytes
from 128 on; so such a byte stands in the text exactly where its character does.
-/

namespace ParallelCorpus.Text

theorem utf8_eq_flatMap (text : String) :
    utf8 text = text.toList.flatMap String.utf8EncodeChar := by
  rw [utf8, ← String.utf8Encode_toList, List.utf8Encode, List.data_toByteArray]

/-- A byte below 128 encodes the character of its number. -/
theorem toNat_of_mem_utf8EncodeChar {c : Char} {byte : UInt8}
    (hbyte : byte ∈ String.utf8EncodeChar c) (hlow : byte.toNat < 128) :
    c.toNat = byte.toNat := by
  have hhigh {value : Nat} (hvalue : 128 ≤ value % 256) : byte ≠ UInt8.ofNat value := by
    rintro rfl
    rw [UInt8.toNat_ofNat'] at hlow
    omega
  have hvalue : c.toNat = c.val.toNat := rfl
  rw [String.utf8EncodeChar] at hbyte
  split at hbyte
  · rw [List.mem_singleton] at hbyte
    rw [hbyte, UInt8.toNat_ofNat', hvalue]
    omega
  split at hbyte
  · simp only [List.mem_cons, List.not_mem_nil, or_false] at hbyte
    rcases hbyte with hfirst | hsecond
    · exact absurd hfirst (hhigh (by omega))
    · exact absurd hsecond (hhigh (by omega))
  split at hbyte
  · simp only [List.mem_cons, List.not_mem_nil, or_false] at hbyte
    rcases hbyte with hfirst | hsecond | hthird
    · exact absurd hfirst (hhigh (by omega))
    · exact absurd hsecond (hhigh (by omega))
    · exact absurd hthird (hhigh (by omega))
  · simp only [List.mem_cons, List.not_mem_nil, or_false] at hbyte
    rcases hbyte with hfirst | hsecond | hthird | hfourth
    · exact absurd hfirst (hhigh (by omega))
    · exact absurd hsecond (hhigh (by omega))
    · exact absurd hthird (hhigh (by omega))
    · exact absurd hfourth (hhigh (by omega))

/-- A character below 128 stands in a text exactly where its byte does. -/
theorem mem_utf8_iff {text : String} {c : Char} (hlow : c.toNat < 128) :
    UInt8.ofNat c.toNat ∈ utf8 text ↔ c ∈ text.toList := by
  have hbyte : (UInt8.ofNat c.toNat).toNat = c.toNat := by
    rw [UInt8.toNat_ofNat']
    omega
  rw [utf8_eq_flatMap, List.mem_flatMap]
  constructor
  · rintro ⟨other, hother, hmem⟩
    have hsame := toNat_of_mem_utf8EncodeChar hmem (by rwa [hbyte])
    rw [hbyte] at hsame
    rwa [← Char.toNat_inj.1 hsame]
  · intro hmem
    refine ⟨c, hmem, ?_⟩
    have hsmall : c.val.toNat ≤ 127 := Nat.lt_succ_iff.1 hlow
    rw [String.utf8EncodeChar]
    simp only [hsmall, if_true]
    exact List.mem_singleton_self _

end ParallelCorpus.Text
