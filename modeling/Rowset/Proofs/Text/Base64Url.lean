import Rowset.Text.Base64Url

/-!
# Reading base64 back

What was written is read back as it was, whatever the length of its tail: the symbols are read as
the sextets that they were written for, in either of the two ways in which blocks are read, and the
sextets make up the bytes again.
-/

namespace Rowset.Text.Base64Url

/-! ## Sextets -/

theorem lt_of_mem_sextets {bytes : List UInt8} {n : Nat} (h : n ∈ sextets bytes) : n < 64 := by
  fun_induction sextets bytes with
  | case1 => cases h
  | case2 a =>
    have := a.toNat_lt
    simp only [List.mem_cons, List.not_mem_nil, or_false] at h
    omega
  | case3 a b =>
    have := a.toNat_lt
    have := b.toNat_lt
    simp only [List.mem_cons, List.not_mem_nil, or_false] at h
    omega
  | case4 a b c rest ih =>
    have := a.toNat_lt
    have := b.toNat_lt
    have := c.toNat_lt
    simp only [List.mem_cons] at h
    rcases h with h | h | h | h | h
    · omega
    · omega
    · omega
    · omega
    · exact ih h

theorem length_sextets_mod_ne_one (bytes : List UInt8) : (sextets bytes).length % 4 ≠ 1 := by
  fun_induction sextets bytes with
  | case1 => decide
  | case2 a => simp
  | case3 a b => simp
  | case4 a b c rest ih =>
    simp only [List.length_cons]
    omega

theorem ofNat_eq_of_toNat {a : UInt8} {n : Nat} (h : n = a.toNat) : UInt8.ofNat n = a := by
  rw [h, UInt8.ofNat_toNat]

/-- The sextets of bytes make up the bytes. -/
theorem octets?_sextets (bytes : List UInt8) : octets? (sextets bytes) = some bytes := by
  fun_induction sextets bytes with
  | case1 => rfl
  | case2 a =>
    have first : UInt8.ofNat (a.toNat / 4 * 4 + a.toNat % 4 * 16 / 16) = a :=
      ofNat_eq_of_toNat (by omega)
    have left : a.toNat % 4 * 16 % 16 = 0 := by omega
    rw [octets?, if_pos left, first]
  | case3 a b =>
    have := b.toNat_lt
    have first : UInt8.ofNat (a.toNat / 4 * 4 + (a.toNat % 4 * 16 + b.toNat / 16) / 16) = a :=
      ofNat_eq_of_toNat (by omega)
    have second : UInt8.ofNat
        ((a.toNat % 4 * 16 + b.toNat / 16) % 16 * 16 + b.toNat % 16 * 4 / 4) = b :=
      ofNat_eq_of_toNat (by omega)
    have left : b.toNat % 16 * 4 % 4 = 0 := by omega
    rw [octets?, if_pos left, first, second]
  | case4 a b c rest ih =>
    have := b.toNat_lt
    have := c.toNat_lt
    have first : UInt8.ofNat (a.toNat / 4 * 4 + (a.toNat % 4 * 16 + b.toNat / 16) / 16) = a :=
      ofNat_eq_of_toNat (by omega)
    have second : UInt8.ofNat ((a.toNat % 4 * 16 + b.toNat / 16) % 16 * 16
        + (b.toNat % 16 * 4 + c.toNat / 64) / 4) = b := ofNat_eq_of_toNat (by omega)
    have third : UInt8.ofNat ((b.toNat % 16 * 4 + c.toNat / 64) % 4 * 64 + c.toNat % 64) = c :=
      ofNat_eq_of_toNat (by omega)
    rw [octets?, ih, first, second, third]
    rfl

/-! ## Symbols -/

theorem symbol_ne_pad {n : Nat} (h : n < 64) : symbol n ≠ pad := by
  intro same
  have known := bits?_symbol h
  rw [same, bits?_pad] at known
  cases known

theorem readSymbols_map_symbol {ns : List Nat} (h : ∀ n ∈ ns, n < 64) (offset : Nat) :
    readSymbols offset (ns.map symbol) = .ok ns := by
  induction ns generalizing offset with
  | nil => rfl
  | cons n ns ih =>
    have rest := ih (fun m hm => h m (List.mem_cons_of_mem _ hm)) (offset + 1)
    rw [List.map_cons, readSymbols, bits?_symbol (h n List.mem_cons_self), rest]
    rfl

theorem readLastBlock_map_symbol {ns : List Nat} (h : ∀ n ∈ ns, n < 64) (offset : Nat) :
    readLastBlock offset (ns.map symbol) = .ok ns := by
  induction ns generalizing offset with
  | nil => rfl
  | cons n ns ih =>
    have rest := ih (fun m hm => h m (List.mem_cons_of_mem _ hm)) (offset + 1)
    have hn := h n List.mem_cons_self
    rw [List.map_cons, readLastBlock, if_neg (symbol_ne_pad hn), bits?_symbol hn, rest]
    rfl

theorem decode_map_symbol {ns : List Nat} {bytes : List UInt8} (small : ∀ n ∈ ns, n < 64)
    (length : ns.length % 4 ≠ 1) (octets : octets? ns = some bytes) :
    decode (ns.map symbol) = .ok bytes := by
  have front : readSymbols 0 ((ns.take (lastBlock ns.length)).map symbol) = _ :=
    readSymbols_map_symbol (fun n hn => small n (List.mem_of_mem_take hn)) 0
  have back : readLastBlock (lastBlock ns.length) ((ns.drop (lastBlock ns.length)).map symbol) = _ :=
    readLastBlock_map_symbol (fun n hn => small n (List.mem_of_mem_drop hn)) (lastBlock ns.length)
  have whole := octets
  rw [← List.take_append_drop (lastBlock ns.length) ns] at whole
  unfold decode
  simp only [List.length_map, if_neg length, ← List.map_take, ← List.map_drop, front, back, bind,
    Except.bind, whole]
  rfl

/-- Reading gives back the bytes that were written. -/
theorem decode_encode (bytes : List UInt8) : decode (encode bytes) = .ok bytes :=
  decode_map_symbol (fun _ => lt_of_mem_sextets) (length_sextets_mod_ne_one bytes)
    (octets?_sextets bytes)

end Rowset.Text.Base64Url
