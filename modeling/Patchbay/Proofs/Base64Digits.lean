import Patchbay.Proofs.TextBytes
import Patchbay.Share.Base64
import Patchbay.Text.Blank

namespace Patchbay

namespace Base64

def sextets : List UInt8 → List Nat
  | [] => []
  | [a] => [a.toNat / 4, a.toNat % 4 * 16]
  | [a, b] =>
      let n := a.toNat * 256 + b.toNat
      [n / 1024, n / 16 % 64, n % 16 * 4]
  | a :: b :: c :: rest =>
      let n := (a.toNat * 256 + b.toNat) * 256 + c.toNat
      n / 262144 :: n / 4096 % 64 :: n / 64 % 64 :: n % 64 :: sextets rest

theorem encodeOnto_eq (bytes : List UInt8) (done : List Char) :
    encodeOnto bytes done = done.reverse ++ (sextets bytes).map digit := by
  induction bytes, done using encodeOnto.induct with
  | case1 | case2 | case3 => simp [encodeOnto, sextets]
  | case4 a b c rest done n ih =>
    rw [encodeOnto, ih]
    simp [sextets, n]

theorem lt_of_mem_sextets {bytes : List UInt8} {n : Nat} (h : n ∈ sextets bytes) : n < 64 := by
  induction bytes using sextets.induct with
  | case1 => cases h
  | case2 a =>
    have := a.toNat_lt
    simp only [sextets, List.mem_cons, List.not_mem_nil, or_false] at h
    omega
  | case3 a b =>
    have := a.toNat_lt
    have := b.toNat_lt
    simp only [sextets, List.mem_cons, List.not_mem_nil, or_false] at h
    omega
  | case4 a b c rest ih =>
    have := a.toNat_lt
    have := b.toNat_lt
    have := c.toNat_lt
    simp only [sextets, List.mem_cons] at h
    rcases h with h | h | h | h | h
    · omega
    · omega
    · omega
    · omega
    · exact ih h

theorem toUInt8_eq {n : Nat} {b : UInt8} (h : n % 256 = b.toNat) : n.toUInt8 = b :=
  UInt8.toNat_inj.mp (by rw [← h]; rfl)

theorem decodeOnto_sextets (bytes done : List UInt8) :
    decodeOnto (sextets bytes) done = some (done.reverse ++ bytes) := by
  induction bytes using sextets.induct generalizing done with
  | case1 => rw [sextets, decodeOnto, List.append_nil]
  | case2 a =>
    have := a.toNat_lt
    have ha : (a.toNat / 4 * 4 + a.toNat % 4 * 16 / 16).toUInt8 = a := toUInt8_eq (by omega)
    rw [sextets, decodeOnto, if_pos (by omega), ha, List.reverse_cons]
  | case3 a b =>
    have := a.toNat_lt
    have := b.toNat_lt
    simp only [sextets]
    generalize hn : a.toNat * 256 + b.toNat = n
    have hread : (n / 1024 * 64 + n / 16 % 64) * 16 + n % 16 * 4 / 4 = n := by omega
    have ha : (n / 256).toUInt8 = a := toUInt8_eq (by omega)
    have hb : n.toUInt8 = b := toUInt8_eq (by omega)
    rw [decodeOnto, if_pos (by omega), hread]
    simp only [ha, hb, List.reverse_cons, List.append_assoc, List.cons_append, List.nil_append]
  | case4 a b c rest ih =>
    have := a.toNat_lt
    have := b.toNat_lt
    have := c.toNat_lt
    simp only [sextets]
    generalize hn : (a.toNat * 256 + b.toNat) * 256 + c.toNat = n
    have hread : ((n / 262144 * 64 + n / 4096 % 64) * 64 + n / 64 % 64) * 64 + n % 64 = n := by
      omega
    have ha : (n / 65536).toUInt8 = a := toUInt8_eq (by omega)
    have hb : (n / 256).toUInt8 = b := toUInt8_eq (by omega)
    have hc : n.toUInt8 = c := toUInt8_eq (by omega)
    rw [decodeOnto, hread]
    simp only [ih, ha, hb, hc, List.reverse_cons, List.append_assoc, List.cons_append,
      List.nil_append]

theorem digit_spec : ∀ n < 64,
    digitValue? (digit n) = some n ∧ Text.isBlank (digit n) = false ∧ digit n ≠ '=' := by
  decide +kernel

theorem encode_eq (bytes : List UInt8) : encode bytes = (sextets bytes).map digit :=
  encodeOnto_eq bytes []

theorem not_blank_of_mem_encode {bytes : List UInt8} {c : Char} (h : c ∈ encode bytes) :
    Text.isBlank c = false ∧ c ≠ '=' := by
  rw [encode_eq] at h
  obtain ⟨n, hn, rfl⟩ := List.mem_map.mp h
  exact (digit_spec n (lt_of_mem_sextets hn)).2

theorem encode_ne_nil {bytes : List UInt8} (h : bytes ≠ []) : encode bytes ≠ [] := by
  rw [encode_eq]
  match bytes with
  | [_] | [_, _] | _ :: _ :: _ :: _ => simp [sextets]

theorem mapM_digitValue? {values : List Nat} (h : ∀ n ∈ values, n < 64) :
    (values.map digit).mapM digitValue? = some values := by
  induction values with
  | nil => rfl
  | cons n rest ih =>
    obtain ⟨hn, hrest⟩ := List.forall_mem_cons.mp h
    rw [List.map_cons, List.mapM_cons, (digit_spec n hn).1, ih hrest]
    rfl

theorem decode?_encode (bytes : List UInt8) : decode? (encode bytes) = some bytes := by
  rw [decode?, encode_eq, mapM_digitValue? fun n => lt_of_mem_sextets, Option.bind_some,
    decodeOnto_sextets]
  rfl

end Base64

end Patchbay
