import Patchbay.Proofs.QueryEncoding
import Patchbay.Url.Parser

namespace Patchbay.Url

theorem mem_intercalate {sep c : Char} {parts : List (List Char)}
    (h : c ∈ [sep].intercalate parts) :
    c = sep ∨ ∃ part ∈ parts, c ∈ part := by
  induction parts with
  | nil => cases h
  | cons part rest ih =>
    cases rest with
    | nil => exact .inr ⟨part, List.mem_singleton_self part, by simpa using h⟩
    | cons next more =>
      rw [List.intercalate_cons_cons, List.mem_append, List.mem_append] at h
      rcases h with (h | h) | h
      · exact .inr ⟨part, List.mem_cons_self, h⟩
      · exact .inl (List.mem_singleton.mp h)
      · refine (ih h).imp_right ?_
        rintro ⟨other, hother, hc⟩
        exact ⟨other, List.mem_cons_of_mem part hother, hc⟩

/-- A fact about an ASCII character is one of 128 facts. -/
theorem of_ascii (p : Char → Bool) (h : ∀ n < 0x80, p (Char.ofNat n)) {c : Char}
    (hc : c.toNat < 0x80) : p c := by
  have hp := h c.toNat hc
  rwa [Char.ofNat_toNat] at hp

/-- What may stand in front of the query of an address, but in a path without segments. -/
def isInner (c : Char) : Bool :=
  0x20 < c.toNat && c ≠ '?' && c ≠ '#'

theorem lt_of_isInner {c : Char} (h : isInner c) : 0x20 < c.toNat := by
  simp only [isInner, Bool.and_eq_true, decide_eq_true_eq] at h
  exact h.1.1

theorem isInner_of_isAlphanumeric {c : Char} (h : isAlphanumeric c) : isInner c := by
  have hc := of_ascii (fun c => !isAlphanumeric c || isInner c) (by decide) (lt_of_isAlphanumeric h)
  rwa [h, Bool.not_true, Bool.false_or] at hc

namespace EscapeSet

def IsEscape (c : Char) : Prop :=
  c = '%' ∨ form c = false

def Stable (set : EscapeSet) : Prop :=
  ∀ c, IsEscape c → set c = false

theorem stable_control : control.Stable := by
  rintro c (rfl | hform)
  · rfl
  · have hc := of_ascii (fun c => form c || !control c) (by decide) (lt_of_form hform)
    rwa [hform, Bool.false_or, Bool.not_eq_true'] at hc

variable {set : EscapeSet} {more : String}

theorem adding_eq_false {c : Char} :
    set.adding more c = false ↔ set c = false ∧ c ∉ more.toList := by
  simp [adding]

theorem Stable.adding (h : set.Stable) (hmore : more.toList.all fun c => c ≠ '%' && form c) :
    (set.adding more).Stable := by
  intro c hc
  refine adding_eq_false.mpr ⟨h c hc, fun hmem => ?_⟩
  have hboth := List.all_eq_true.mp hmore c hmem
  rcases hc with rfl | hform
  · simp at hboth
  · simp [hform] at hboth

theorem stable_fragment : fragment.Stable := stable_control.adding (by decide)

theorem stable_query : query.Stable := stable_control.adding (by decide)

theorem stable_specialQuery : specialQuery.Stable := stable_query.adding (by decide)

theorem stable_path : path.Stable := stable_fragment.adding (by decide)

theorem stable_userinfo : userinfo.Stable := stable_path.adding (by decide)

theorem le_of_control {c : Char} (h : control c = false) : 0x20 ≤ c.toNat := by
  rw [control, Bool.or_eq_false_iff] at h
  exact Nat.not_lt.mp (of_decide_eq_false h.1)

theorem lt_of_control {c : Char} (h : control c = false) (hspace : c ≠ ' ') : 0x20 < c.toNat := by
  have hle := le_of_control h
  have hne : c.toNat ≠ 0x20 := fun heq => hspace (Char.toNat_inj.mp heq)
  omega

theorem lt_of_adding_control {more : String} {c : Char} (h : control.adding more c = false)
    (hspace : ' ' ∈ more.toList) : 0x20 < c.toNat := by
  obtain ⟨hcontrol, hmore⟩ := adding_eq_false.mp h
  exact lt_of_control hcontrol fun heq => hmore (heq ▸ hspace)

theorem isInner_of_control {c : Char} (h : control c = false) (hspace : c ≠ ' ') (hquery : c ≠ '?')
    (hhash : c ≠ '#') : isInner c := by
  simp [isInner, hquery, hhash, lt_of_control h hspace]

theorem isInner_of_path {c : Char} (h : path c = false) : isInner c := by
  obtain ⟨hfragment, hpath⟩ := adding_eq_false.mp h
  obtain ⟨hcontrol, hspace⟩ := adding_eq_false.mp hfragment
  exact isInner_of_control hcontrol (fun heq => hspace (heq ▸ by decide))
    (fun heq => hpath (heq ▸ by decide))
    fun heq => hpath (heq ▸ by decide)

end EscapeSet

section Escape

variable {set : EscapeSet} {text : List Char}

theorem mem_escape {c : Char} (h : c ∈ escape set text) :
    set c = false ∧ c ∈ text ∨ EscapeSet.IsEscape c := by
  obtain ⟨d, hd, hc⟩ := List.mem_flatMap.mp h
  cases hset : set d with
  | false =>
    rw [hset, if_neg Bool.false_ne_true] at hc
    obtain rfl := List.mem_singleton.mp hc
    exact .inl ⟨hset, hd⟩
  | true =>
    rw [hset, if_pos rfl] at hc
    obtain ⟨b, _, hb⟩ := List.mem_flatMap.mp hc
    exact .inr (mem_escapeByte hb)

theorem EscapeSet.Stable.of_mem_escape (h : set.Stable) {c : Char} (hc : c ∈ escape set text) :
    set c = false :=
  (mem_escape hc).elim And.left (h c)

theorem escape_of_free (h : ∀ c ∈ text, set c = false) : escape set text = text := by
  rw [escape, List.flatMap_congr
    fun c hc => by rw [h c hc, if_neg Bool.false_ne_true], List.flatMap_singleton']

end Escape

def AllInner (text : List Char) : Prop :=
  ∀ c ∈ text, isInner c

section AllInner

variable {text more : List Char}

theorem AllInner.append (h : AllInner text) (hmore : AllInner more) :
    AllInner (text ++ more) := fun c hc =>
  (List.mem_append.mp hc).elim (h c) (hmore c)

theorem AllInner.cons (h : AllInner text) {c : Char} (hc : isInner c) :
    AllInner (c :: text) := fun d hd =>
  (List.mem_cons.mp hd).elim (fun heq => heq ▸ hc) (h d)

theorem allInner_nil : AllInner [] := nofun

theorem allInner_intercalate {sep : Char} {parts : List (List Char)} (hsep : isInner sep)
    (h : ∀ part ∈ parts, AllInner part) : AllInner ([sep].intercalate parts) := by
  intro c hc
  obtain rfl | ⟨part, hpart, hmem⟩ := mem_intercalate hc
  · exact hsep
  · exact h part hpart c hmem

theorem allInner_escape_path (text : List Char) :
    AllInner (escape EscapeSet.path text) := fun _ hc =>
  EscapeSet.isInner_of_path (EscapeSet.stable_path.of_mem_escape hc)

theorem allInner_escape_userinfo (text : List Char) :
    AllInner (escape EscapeSet.userinfo text) := fun _ hc =>
  EscapeSet.isInner_of_path
    (EscapeSet.adding_eq_false.mp (EscapeSet.stable_userinfo.of_mem_escape hc)).1

theorem allInner_userinfoText (text : List Char) : AllInner (userinfoText text) := by
  have huser := allInner_escape_userinfo
  have hpassword (password : List Char) :
      AllInner (if password.isEmpty then [] else ':' :: escape EscapeSet.userinfo password) := by
    split
    · exact allInner_nil
    · exact (huser password).cons rfl
  have hmarked {shown : List Char} (h : AllInner shown) :
      AllInner (if shown.isEmpty then [] else shown ++ ['@']) := by
    split
    · exact allInner_nil
    · exact h.append (allInner_nil.cons rfl)
  exact hmarked ((huser _).append (hpassword _))

theorem allInner_toDigits {base : Nat} (hbase : 1 < base) (hmost : base ≤ 16) (n : Nat) :
    AllInner (Nat.toDigits base n) := by
  have hdigit : ∀ d < 16, isInner d.digitChar := by decide
  induction n using Nat.strongRecOn with
  | ind n ih =>
    by_cases hn : n < base
    · rw [Nat.toDigits_of_lt_base hn]
      exact allInner_nil.cons (hdigit n (by omega))
    · have hmod := Nat.mod_lt n (Nat.zero_lt_of_lt hbase)
      rw [Nat.toDigits_of_base_le hbase (Nat.not_lt.mp hn)]
      have hrest := ih (n / base) (Nat.div_lt_self (by omega) hbase)
      exact hrest.append (allInner_nil.cons (hdigit (n % base) (by omega)))

theorem allInner_natText (n : Nat) : AllInner (natText n) :=
  allInner_toDigits (by decide) (by decide) n

theorem allInner_ipv4Text (address : Nat) : AllInner (ipv4Text address) := by
  refine allInner_intercalate rfl fun part hpart => ?_
  obtain ⟨place, _, rfl⟩ := List.mem_map.mp hpart
  exact allInner_natText _

theorem allInner_groupsText (groups : List Nat) : AllInner (groupsText groups) := by
  refine allInner_intercalate rfl fun part hpart => ?_
  obtain ⟨n, _, rfl⟩ := List.mem_map.mp hpart
  exact allInner_toDigits (by decide) (by decide) n

theorem allInner_ipv6Text (groups : List Nat) : AllInner (ipv6Text groups) := by
  unfold ipv6Text
  split
  · exact allInner_groupsText groups
  · exact (allInner_groupsText _).append (((allInner_groupsText _).cons rfl).cons rfl)

end AllInner

section Host

theorem isInner_of_isNameChar {c : Char} (h : isNameChar c) : isInner c := by
  rw [isNameChar, Bool.and_eq_true, Bool.not_eq_true', isForbiddenInDomain] at h
  simp only [Bool.or_eq_false_iff, decide_eq_false_iff_not, Nat.not_le] at h
  obtain ⟨⟨⟨hlow, _⟩, hmarks⟩, _⟩ := h
  have hquery : c ≠ '?' := fun heq => by rw [heq] at hmarks; exact absurd hmarks (by decide)
  have hhash : c ≠ '#' := fun heq => by rw [heq] at hmarks; exact absurd hmarks (by decide)
  simp [isInner, hlow, hquery, hhash]

namespace Punycode

theorem isInner_digit {n : Nat} (h : n < 36) : isInner (digit n) := by
  have hall : ∀ m < 36, isInner (digit m) := by decide
  exact hall n h

theorem allInner_writeNumber (bias weight n : Nat) : AllInner (writeNumber bias weight n) := by
  induction weight, n using writeNumber.induct bias with
  | case1 weight n t hlt =>
    rw [writeNumber, if_pos hlt]
    have hle := threshold_le bias weight
    exact allInner_nil.cons (isInner_digit (by omega))
  | case2 weight n t hge ih =>
    rw [writeNumber, if_neg hge]
    have hle := threshold_le bias weight
    have hmod : (n - threshold bias weight) % (36 - threshold bias weight) <
        36 - threshold bias weight :=
      Nat.mod_lt _ (by omega)
    exact ih.cons (isInner_digit (by omega))

theorem allInner_stepChar (point : Nat) {progress : Progress}
    (h : AllInner progress.out) (c : Char) :
    AllInner (stepChar point progress c).out := by
  unfold stepChar
  split
  · exact h
  · split
    · exact h.append (allInner_writeNumber _ _ _)
    · exact h

theorem allInner_writePoints (label : List Char) {points : List Nat} {point : Nat}
    {progress : Progress}
    (h : AllInner progress.out) : AllInner (writePoints label points point progress).out := by
  induction points generalizing point progress with
  | nil => exact h
  | cons next rest ih =>
    rw [writePoints]
    refine ih (List.foldlRecOn
      (motive := fun (progress : Progress) => AllInner progress.out) label _ h ?_)
    exact fun _ hprogress c _ => allInner_stepChar next hprogress c

theorem allInner_encode {label : List Char} (h : AllInner label) : AllInner (encode label) := by
  unfold encode
  refine AllInner.append ?_ (allInner_writePoints label allInner_nil)
  split
  · exact allInner_nil
  · exact AllInner.append (fun c hc => h c (List.mem_of_mem_filter hc)) (allInner_nil.cons rfl)

end Punycode

theorem allInner_domainToAscii? {domain name : List Char} (h : domainToAscii? domain = some name) :
    AllInner name := by
  unfold domainToAscii? at h
  split at h
  · cases h
  · next labels _ =>
    split at h
    · next hvalid =>
      obtain rfl := Option.some.inj h
      refine allInner_intercalate rfl fun part hpart => ?_
      obtain ⟨label, hlabel, rfl⟩ := List.mem_map.mp hpart
      have hlabel' := List.all_eq_true.mp (Bool.and_eq_true_iff.mp hvalid).1 label hlabel
      have hinner : AllInner label := by
        rw [Label.isValid] at hlabel'
        simp only [Bool.and_eq_true, List.all_eq_true] at hlabel'
        exact fun c hc => isInner_of_isNameChar (hlabel'.1.1.1.2 c hc)
      unfold Label.toAscii
      split
      · exact hinner
      · have hmark : AllInner "xn--".toList := List.all_eq_true.mp (by decide)
        exact hmark.append (Punycode.allInner_encode hinner)
    · cases h

theorem allInner_bracketed {text : List Char} {host : Host} (h : Host.bracketed text = .ok host) :
    AllInner host.text := by
  unfold Host.bracketed at h
  split at h
  · split at h
    · next groups _ =>
      obtain rfl := Except.ok.inj h
      exact ((allInner_ipv6Text groups).cons rfl).append (allInner_nil.cons rfl)
    · cases h
  · cases h

theorem allInner_ofText {text : List Char} {host : Host} (h : Host.ofText text = .ok host) :
    AllInner host.text := by
  unfold Host.ofText at h
  split at h
  · exact allInner_bracketed h
  · split at h
    · cases h
    · cases h
    · next name _ hname =>
      split at h
      · split at h
        · next address _ =>
          obtain rfl := Except.ok.inj h
          exact allInner_ipv4Text address
        · cases h
      · obtain rfl := Except.ok.inj h
        obtain ⟨_, _, hdomain⟩ := Option.bind_eq_some_iff.mp hname
        exact allInner_domainToAscii? hdomain

theorem allInner_opaqueOfText {text : List Char} {host : Host}
    (h : Host.opaqueOfText text = .ok host) :
    AllInner host.text := by
  unfold Host.opaqueOfText at h
  split at h
  · exact allInner_bracketed h
  · split at h
    · cases h
    · next hallowed =>
      obtain rfl := Except.ok.inj h
      intro c hc
      rcases mem_escape hc with ⟨hcontrol, hmem⟩ | hescape
      · have hfree (d : Char) (hd : Host.isForbidden d) : c ≠ d := fun heq =>
          hallowed (List.any_eq_true.mpr ⟨c, hmem, heq ▸ hd⟩)
        exact EscapeSet.isInner_of_control hcontrol (hfree ' ' rfl) (hfree '?' rfl) (hfree '#' rfl)
      · exact EscapeSet.isInner_of_path (EscapeSet.stable_path c hescape)

theorem allInner_authority {kind : SchemeKind} {text rest : List Char} {atEnd : Bool}
    {authority : Authority}
    (h : authorityOf kind text atEnd = .ok (authority, rest)) : AllInner authority.text := by
  unfold authorityOf at h
  dsimp only at h
  split at h
  · cases h
  · split at h
    · cases h
    · split at h
      · cases h
      · next host hhost =>
        split at h
        · cases h
        · next port _ _ =>
          have hhost' : AllInner host.text := by
            split at hhost
            · exact allInner_ofText hhost
            · exact allInner_opaqueOfText hhost
          obtain ⟨rfl, _⟩ := Prod.mk.inj (Except.ok.inj h)
          refine ((((allInner_userinfoText _).cons rfl).cons rfl).append hhost').append ?_
          dsimp only
          split
          · exact (allInner_natText _).cons rfl
          · exact allInner_nil

end Host

section Segments

variable {kind : SchemeKind}

theorem allInner_segmentText (kind : SchemeKind) (isFirst : Bool) (segment : List Char) :
    AllInner (segmentText kind isFirst segment) := by
  unfold segmentText
  split
  · next hdrive =>
    match segment, hdrive.2.2 with
    | [letter, mark], hdrive =>
      have hletter := (Bool.and_eq_true_iff.mp hdrive).1
      have halpha : isAlphanumeric letter := by rw [isAlphanumeric, hletter, Bool.true_or]
      exact (allInner_nil.cons rfl).cons (isInner_of_isAlphanumeric halpha)
  · exact allInner_escape_path segment

theorem allInner_resolve {segments done : List (List Char)}
    (h : ∀ segment ∈ done, AllInner segment) :
    ∀ segment ∈ resolve kind segments done, AllInner segment := by
  induction segments generalizing done with
  | nil => exact fun segment hsegment => h segment (List.mem_reverse.mp hsegment)
  | cons segment rest ih =>
    have hup : ∀ segment ∈ goUp done, AllInner segment := by
      cases done with
      | nil => exact nofun
      | cons last above =>
        rw [goUp]
        split
        · exact h
        · exact fun other hother => h other (List.mem_cons_of_mem last hother)
    rw [resolve]
    refine ih ?_
    split
    · split
      · exact List.forall_mem_cons.mpr ⟨allInner_nil, hup⟩
      · exact hup
    · split
      · split
        · exact List.forall_mem_cons.mpr ⟨allInner_nil, h⟩
        · exact h
      · exact List.forall_mem_cons.mpr ⟨allInner_segmentText kind _ segment, h⟩

theorem allInner_segmentsOf (text : List Char) :
    ∀ segment ∈ segmentsOf kind text, AllInner segment :=
  allInner_resolve nofun

end Segments

end Patchbay.Url
