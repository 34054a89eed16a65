import Patchbay.Deflate.Inflate

namespace Patchbay.Deflate

variable {limit other rounds : Nat} {codes : BlockCodes} {bits rest : Bits}
    {out later done : ByteArray}

theorem bind_eq_ok {ε α β : Type} {x : Except ε α} {f : α → Except ε β} {b : β} :
    (x >>= f) = .ok b ↔ ∃ a, x = .ok a ∧ f a = .ok b := by
  constructor
  · intro h
    cases x with
    | ok a => exact ⟨a, rfl, h⟩
    | error e => cases h
  · rintro ⟨a, rfl, h⟩
    exact h

theorem size_copyBack (out : ByteArray) (distance count : Nat) :
    (copyBack out distance count).size = out.size + count := by
  induction count generalizing out with
  | zero => rfl
  | succ count ih =>
    rw [copyBack, ih, ByteArray.size_push]
    omega

theorem size_foldl_push (bytes : List UInt8) (out : ByteArray) :
    (bytes.foldl ByteArray.push out).size = out.size + bytes.length := by
  induction bytes generalizing out with
  | nil => rfl
  | cons b bytes ih =>
    rw [List.foldl_cons, ih, ByteArray.size_push, List.length_cons]
    omega

/-- Under the other limit a reading that starts at `out` and ends at `done` has the same result, or
it stops because far too much is handed on. -/
structure EndsAlike (other : Nat) (out done : ByteArray) {α : Type} (result : α)
    (reading : Unpacking α) : Prop where
  grows : out.size ≤ done.size
  alike : reading = .ok result ∨ other + window < done.size ∧ reading = .error .passed

namespace EndsAlike

variable {α : Type} {result : α} {reading : Unpacking α}

theorem of_ok (hgrows : out.size ≤ done.size) : EndsAlike other out done result (.ok result) :=
  ⟨hgrows, .inl rfl⟩

theorem of_grows (hgrows : out.size ≤ later.size) (h : EndsAlike other later done result reading) :
    EndsAlike other out done result reading :=
  ⟨Nat.le_trans hgrows h.grows, h.alike⟩

theorem bind {β : Type} {next : β} {f : β → Unpacking α} {first : Unpacking β}
    (hfirst : EndsAlike other out later next first)
    (h : EndsAlike other later done result (f next)) :
    EndsAlike other out done result (first >>= f) := by
  refine ⟨Nat.le_trans hfirst.grows h.grows, ?_⟩
  rcases hfirst.alike with rfl | ⟨hpassed, rfl⟩
  · exact h.alike
  · exact .inr ⟨Nat.lt_of_lt_of_le hpassed h.grows, rfl⟩

theorem checked (h : EndsAlike other out done result reading) :
    EndsAlike other out done result (checkSize other out >>= fun _ => reading) := by
  refine ⟨h.grows, ?_⟩
  by_cases hpassed : other + window < out.size
  · rw [checkSize, if_pos hpassed]
    exact .inr ⟨Nat.lt_of_lt_of_le hpassed h.grows, rfl⟩
  · rw [checkSize, if_neg hpassed]
    exact h.alike

end EndsAlike

theorem endsAlike_symbols (other : Nat)
    (h : symbols codes limit rounds bits out = .ok (rest, done)) :
    EndsAlike other out done (rest, done) (symbols codes other rounds bits out) := by
  induction rounds generalizing bits out with
  | zero => cases h
  | succ rounds ih =>
    rw [symbols] at h ⊢
    obtain ⟨_, -, h⟩ := bind_eq_ok.mp h
    obtain ⟨⟨item, bits⟩, hitem, h⟩ := bind_eq_ok.mp h
    refine .checked ?_
    rw [hitem]
    cases item with
    | byte b =>
      refine .of_grows ?_ (ih h)
      rw [ByteArray.size_push]
      exact Nat.le_succ _
    | last =>
      cases h
      exact .of_ok (Nat.le_refl _)
    | repetition length distance =>
      refine .of_grows ?_ (ih h)
      rw [size_copyBack]
      exact Nat.le_add_right _ _

theorem size_stored (h : stored bits out = .ok (rest, done)) : out.size ≤ done.size := by
  rw [stored] at h
  obtain ⟨⟨size, bytes⟩, -, h⟩ := bind_eq_ok.mp h
  by_cases hshort : bytes.length < size
  · cases (if_pos hshort).symm.trans h
  · obtain ⟨-, rfl⟩ := Prod.mk.inj (Except.ok.inj ((if_neg hshort).symm.trans h))
    rw [size_foldl_push]
    exact Nat.le_add_right _ _

theorem endsAlike_blockOf (other : Nat) {kind : BlockKind}
    (h : blockOf limit kind bits out = .ok (rest, done)) :
    EndsAlike other out done (rest, done) (blockOf other kind bits out) := by
  cases kind with
  | stored =>
    have hgrows := size_stored h
    rw [blockOf] at h ⊢
    rw [h]
    exact .of_ok hgrows
  | fixed =>
    rw [blockOf] at h ⊢
    obtain ⟨codes, hcodes, h⟩ := bind_eq_ok.mp h
    rw [hcodes]
    exact endsAlike_symbols other h
  | own =>
    rw [blockOf] at h ⊢
    obtain ⟨⟨codes, bits⟩, hcodes, h⟩ := bind_eq_ok.mp h
    rw [hcodes]
    exact endsAlike_symbols other h

theorem endsAlike_blocks (other : Nat) (h : blocks limit rounds bits out = .ok done) :
    EndsAlike other out done done (blocks other rounds bits out) := by
  induction rounds generalizing bits out with
  | zero => cases h
  | succ rounds ih =>
    rw [blocks] at h ⊢
    obtain ⟨_, -, h⟩ := bind_eq_ok.mp h
    obtain ⟨⟨isLast, kind, bits⟩, hhead, h⟩ := bind_eq_ok.mp h
    obtain ⟨⟨rest, later⟩, hblock, h⟩ := bind_eq_ok.mp h
    refine .checked ?_
    rw [hhead]
    change EndsAlike other out done done (blockOf other kind bits out >>= _)
    refine .bind (endsAlike_blockOf other hblock) ?_
    cases isLast with
    | true =>
      cases h
      exact .of_ok (Nat.le_refl _)
    | false => exact ih h

/-- A limit lets through what is not too long for it, whatever the limit under which that
was found. -/
theorem inflate_of_ok {bytes text : List UInt8} (h : inflate limit bytes = .ok text) (other : Nat) :
    inflate other bytes = if other < text.length then .error .tooLong else .ok text := by
  rw [inflate] at h ⊢
  split at h
  · next out hout =>
    obtain ⟨_, halike⟩ := endsAlike_blocks other hout
    split at h
    · cases h
    · cases h
      rcases halike with hsame | ⟨hfar, hpassed⟩
      · rw [hsame]
        rfl
      · have hlong : other < out.data.toList.length := by
          have hsize : out.size = out.data.toList.length := rfl
          omega
        rw [hpassed, if_pos hlong]
  · cases h
  · cases h

theorem Packer.Restores.inflate_eq {deflate : Packer} {bytes : List UInt8}
    (h : deflate.Restores bytes)
    (limit : Nat) :
    inflate limit (deflate bytes) = if limit < bytes.length then .error .tooLong else .ok bytes :=
  inflate_of_ok h limit

theorem Packer.Restores.ne_nil {deflate : Packer} {bytes : List UInt8}
    (h : deflate.Restores bytes) :
    deflate bytes ≠ [] := by
  intro hnil
  rw [Packer.Restores, hnil] at h
  cases h

end Patchbay.Deflate
