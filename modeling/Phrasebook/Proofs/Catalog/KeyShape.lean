import Phrasebook.Catalog.Key

/-!
# The shape of message keys

A key is made from the first four bytes of a digest, each written as two characters from
`0-9a-f`. Whatever the bytes are, the result has the shape `isMessageKey` checks: eight
characters, each a decimal digit or one of `a` to `f`, taking one byte each. Only the number
of bytes matters, and SHA-256 always gives 32.

* `Digest.length_sha256`   a digest has 32 bytes: the state keeps its eight words through every
                           block;
* `isMessageKey_hexPrefix` the first four bytes of any byte string of at least four make a key;
* `messageKey_isMessageKey` every source text gets a key of that shape, of `keyLength` characters.
-/

namespace Phrasebook

namespace Digest

theorem round_length (s : List UInt32) (k w : UInt32) : (round s k w).length = s.length := by
  unfold round
  split <;> rfl

theorem foldl_round_length (ks ws : Nat → UInt32) (is : List Nat) (s : List UInt32) :
    (is.foldl (fun s i => round s (ks i) (ws i)) s).length = s.length := by
  induction is generalizing s with
  | nil => rfl
  | cons i is ih => rw [List.foldl_cons, ih, round_length]

theorem compress_length (state : List UInt32) (block : List UInt8) :
    (compress state block).length = state.length := by
  simp only [compress, List.length_zipWith, foldl_round_length, Nat.min_self]

theorem compressAll_length (state : List UInt32) (bytes : List UInt8) :
    (compressAll state bytes).length = state.length := by
  induction state, bytes using compressAll.induct with
  | case1 state bytes h => rw [compressAll, dif_pos h]
  | case2 state bytes h ih => rw [compressAll, dif_neg h, ih, compress_length]

theorem length_flatMap_bytesOfWord (ws : List UInt32) :
    (ws.flatMap bytesOfWord).length = 4 * ws.length := by
  induction ws with
  | nil => rfl
  | cons w ws ih => simp [List.flatMap_cons, bytesOfWord, ih]; omega

/-- a digest has 32 bytes -/
theorem length_sha256 (bytes : List UInt8) : (sha256 bytes).length = 32 := by
  rw [sha256, length_flatMap_bytesOfWord, compressAll_length]
  rfl

theorem hexDigit_keyChar {n : Nat} (h : n < 16) :
    let c := if n < 10 then Char.ofNat (48 + n) else Char.ofNat (87 + n)
    (c.isDigit || ('a' ≤ c && c ≤ 'f')) = true ∧ c.utf8Size = 1 := by
  revert n
  decide

theorem hexByte_keyChars (b : UInt8) :
    (hexByte b).toList.length = 2 ∧
      ∀ c ∈ (hexByte b).toList, (c.isDigit || ('a' ≤ c && c ≤ 'f')) = true ∧ c.utf8Size = 1 := by
  have hb := b.toNat_lt
  have hi := hexDigit_keyChar (show b.toNat / 16 < 16 by omega)
  have lo := hexDigit_keyChar (show b.toNat % 16 < 16 by omega)
  simp only [hexByte, String.toList_ofList, List.mem_cons, List.not_mem_nil, or_false]
  refine ⟨rfl, ?_⟩
  rintro c (rfl | rfl)
  · exact hi
  · exact lo

end Digest

theorem join_hexByte_keyChars (bs : List UInt8) :
    (String.join (bs.map Digest.hexByte)).toList.length = 2 * bs.length ∧
      ∀ c ∈ (String.join (bs.map Digest.hexByte)).toList,
        (c.isDigit || ('a' ≤ c && c ≤ 'f')) = true ∧ c.utf8Size = 1 := by
  induction bs with
  | nil => simp
  | cons b bs ih =>
    obtain ⟨hlen, hchars⟩ := Digest.hexByte_keyChars b
    simp only [List.map_cons, String.join_cons, String.toList_append, List.length_append, hlen,
      ih.1, List.length_cons, List.mem_append]
    refine ⟨by omega, ?_⟩
    rintro c (hc | hc)
    · exact hchars c hc
    · exact ih.2 c hc

theorem utf8ByteSize_ofList_of_utf8Size_one {l : List Char} (h : ∀ c ∈ l, c.utf8Size = 1) :
    (String.ofList l).utf8ByteSize = l.length := by
  induction l with
  | nil => rfl
  | cons c cs ih =>
    have hsplit : String.ofList (c :: cs) = String.singleton c ++ String.ofList cs := by
      rw [String.singleton_eq_ofList, ← String.ofList_append]
      rfl
    rw [hsplit, String.utf8ByteSize_append, String.utf8ByteSize_singleton,
      h c List.mem_cons_self, ih fun d hd => h d (List.mem_cons_of_mem c hd), List.length_cons]
    omega

theorem utf8ByteSize_of_utf8Size_one {s : String} (h : ∀ c ∈ s.toList, c.utf8Size = 1) :
    s.utf8ByteSize = s.toList.length := by
  rw [← utf8ByteSize_ofList_of_utf8Size_one h, String.ofList_toList]

/-- the first four bytes of any byte string of at least four bytes make a key -/
theorem isMessageKey_hexPrefix (ds : List UInt8) (h : keyLength / 2 ≤ ds.length) :
    isMessageKey (String.join ((ds.take (keyLength / 2)).map Digest.hexByte)) = true := by
  obtain ⟨hlen, hchars⟩ := join_hexByte_keyChars (ds.take (keyLength / 2))
  have htake : (ds.take (keyLength / 2)).length = 4 := by
    rw [List.length_take]
    simp only [keyLength] at h ⊢
    omega
  have hbytes := utf8ByteSize_of_utf8Size_one fun c hc => (hchars c hc).2
  simp only [isMessageKey, Bool.and_eq_true, beq_iff_eq, List.all_eq_true]
  refine ⟨?_, fun c hc => (hchars c hc).1⟩
  rw [hbytes, hlen, htake]
  rfl

/-- Every source text gets a key of the key shape, `keyLength` characters long. -/
theorem messageKey_isMessageKey (source : String) :
    isMessageKey (messageKey source) = true ∧ (messageKey source).length = keyLength := by
  have hlen : keyLength / 2 ≤ (Digest.sha256 source.toUTF8.toList).length := by
    rw [Digest.length_sha256]
    decide
  refine ⟨isMessageKey_hexPrefix _ hlen, ?_⟩
  rw [← String.length_toList, messageKey, (join_hexByte_keyChars _).1, List.length_take,
    Digest.length_sha256]
  rfl

end Phrasebook
