import Patchbay.Proofs.AddressReading

namespace Patchbay.Url

section Normal

variable {kind : SchemeKind} {scheme text : List Char} {url : Url}

structure NormalParts (url : Url) : Prop where
  authority : ∀ authority, url.authority = some authority → AllInner authority.text
  segments : ∀ list, url.path = .segments list → ∀ segment ∈ list, AllInner segment
  query : ∀ query ∈ url.query, ∀ c ∈ query, EscapeSet.query c = false
  fragment : ∀ fragment ∈ url.fragment, ∀ c ∈ fragment, EscapeSet.fragment c = false
  plain : ∀ text, url.path = .plain text → url.authority = none ∧
    SchemeKind.ofScheme (String.ofList url.scheme) = .other ∧ text.head? ≠ some '/' ∧
    ∀ c ∈ text, EscapeSet.control c = false ∧ c ≠ '?' ∧ c ≠ '#'

theorem normalParts_withAuthority (h : withAuthority kind scheme text = .ok url) :
    url.NormalParts ∧ url.scheme = scheme := by
  unfold withAuthority at h
  dsimp only at h
  split at h
  · cases h
  · next authority afterPort hauthority =>
    obtain rfl := Except.ok.inj h
    refine ⟨⟨?_, ?_, (queryAndFragment_free kind _).1, (queryAndFragment_free kind _).2, ?_⟩, rfl⟩
    · rintro _ ⟨⟩
      exact allInner_authority hauthority
    · intro list hlist
      dsimp only at hlist
      unfold pathOf at hlist
      split at hlist
      · obtain rfl := Path.segments.inj hlist
        exact nofun
      · obtain rfl := Path.segments.inj hlist
        exact allInner_segmentsOf _
    · intro plain hplain
      dsimp only at hplain
      unfold pathOf at hplain
      split at hplain <;> cases hplain

theorem mem_dropEmptySegments {segments : List (List Char)} {segment : List Char}
    (h : segment ∈ dropEmptySegments segments) : segment ∈ segments := by
  induction segments with
  | nil => exact h
  | cons first rest ih =>
    unfold dropEmptySegments at h
    split at h
    · next heq =>
      obtain ⟨rfl, rfl⟩ := List.cons.inj heq
      exact List.mem_cons_of_mem _ (ih h)
    · exact h

theorem allInner_fileHost {host? : Option Host} (h : fileHost? text = .ok host?) :
    AllInner (host?.getD (.domain [])).text := by
  unfold fileHost? at h
  split at h
  · obtain rfl := Except.ok.inj h
    exact allInner_nil
  · split at h
    · next host hhost =>
      obtain rfl := Except.ok.inj h
      split
      · exact allInner_nil
      · exact allInner_ofText hhost
    · cases h

theorem normalParts_ofFileText (h : ofFileText scheme text = .ok url) :
    url.NormalParts ∧ url.scheme = scheme := by
  unfold ofFileText at h
  dsimp only at h
  split at h
  · cases h
  · next host? hhost =>
    obtain rfl := Except.ok.inj h
    have hinner (onDrive : Bool) :
        AllInner (if onDrive then Host.domain [] else host?.getD (.domain [])).text := by
      split
      · exact allInner_nil
      · exact allInner_fileHost hhost
    refine ⟨⟨?_, ?_, (queryAndFragment_free .file _).1, (queryAndFragment_free .file _).2, nofun⟩,
      rfl⟩
    · rintro _ ⟨⟩
      exact (((allInner_nil.cons rfl).cons rfl).append (hinner _)).append allInner_nil
    · rintro _ ⟨⟩ segment hsegment
      exact allInner_segmentsOf _ segment (mem_dropEmptySegments hsegment)

theorem head?_escape_ne {set : EscapeSet} (h : text.head? ≠ some '/') :
    (escape set text).head? ≠ some '/' := by
  cases text with
  | nil => exact nofun
  | cons c rest =>
    rw [escape, List.flatMap_cons]
    split
    · obtain ⟨b, bytes, hbytes, _⟩ := Utf8.exists_head_encodeChar c
      rw [hbytes]
      rintro ⟨⟩
    · simpa using h

theorem normalParts_withoutAuthority (hkind : SchemeKind.ofScheme (String.ofList scheme) = .other) :
    (withoutAuthority scheme text).NormalParts := by
  unfold withoutAuthority
  dsimp only
  refine ⟨nofun, ?_, (queryAndFragment_free .other _).1, (queryAndFragment_free .other _).2, ?_⟩
  · intro list hlist
    dsimp only at hlist
    split at hlist
    · obtain rfl := Path.segments.inj hlist
      exact allInner_segmentsOf _
    · cases hlist
  · intro plain hplain
    dsimp only at hplain
    split at hplain
    · cases hplain
    · next hslash =>
      obtain rfl := Path.plain.inj hplain
      refine ⟨rfl, hkind, head?_escape_ne fun hhead => ?_, fun c hc =>
        ⟨EscapeSet.stable_control.of_mem_escape hc, ?_⟩⟩
      · obtain ⟨rest, hrest⟩ := List.head?_eq_some_iff.mp hhead
        exact hslash rest hrest
      · rcases mem_escape hc with ⟨_, hmem⟩ | hescape
        · have hstops := List.mem_takeWhile_imp hmem
          simpa using hstops
        · have hinner := EscapeSet.isInner_of_path (EscapeSet.stable_path c hescape)
          simpa using not_stops_of_isInner hinner

/-- An address in normal form, which is read back from its scheme on. -/
structure Normal (url : Url) : Prop extends NormalParts url where
  scheme_ne : url.scheme ≠ []
  scheme_inner : AllInner url.scheme
  scheme_reads : ∀ more, takeScheme (url.scheme ++ ':' :: more) = some (url.scheme, more)

theorem normalParts_ofRest {rest : List Char} (h : ofRest scheme rest = .ok url) :
    url.NormalParts ∧ url.scheme = scheme := by
  unfold ofRest at h
  dsimp only at h
  split at h
  · exact normalParts_withAuthority h
  · exact normalParts_ofFileText h
  · next hkind =>
    unfold ofOther at h
    split at h
    · exact normalParts_withAuthority h
    · obtain rfl := Except.ok.inj h
      exact ⟨normalParts_withoutAuthority hkind, rfl⟩

theorem normal_of_parse {text : String} (h : parse text = .ok url) : url.Normal := by
  rw [parse_eq] at h
  split at h
  · cases h
  · next scheme rest hscheme =>
    obtain ⟨hparts, rfl⟩ := normalParts_ofRest h
    obtain ⟨hne, hinner, hreads⟩ := takeScheme_spec hscheme
    exact ⟨hparts, hne, hinner, hreads⟩

end Normal

/-- The text of the address is read as the address. -/
def ReadsBack (url : Url) : Prop :=
  parse url.text = .ok url

def front (url : Url) : List Char :=
  (match url.authority with
    | some authority => authority.text
    | none => []) ++ url.pathMark ++ url.path.text

def back (url : Url) : List Char :=
  markedPart '?' url.query ++ markedPart '#' url.fragment

section ReadsBack

variable {url : Url}

theorem text_eq (url : Url) :
    url.text = String.ofList (url.scheme ++ ':' :: (url.front ++ url.back)) := by
  unfold text front back
  cases url.authority <;> simp only [List.append_assoc, List.cons_append, List.nil_append]

theorem isBack_back (url : Url) : IsBack url.back := by
  unfold back
  cases url.query with
  | some query => rintro _ ⟨⟩; exact .inl rfl
  | none =>
    cases url.fragment with
    | some fragment => rintro _ ⟨⟩; exact .inr rfl
    | none => exact nofun

theorem lt_of_mem_markedPart {mark : Char} {part : Option (List Char)} (hmark : 0x20 < mark.toNat)
    (h : ∀ text ∈ part, ∀ c ∈ text, 0x20 < c.toNat) :
    ∀ c ∈ markedPart mark part, 0x20 < c.toNat := by
  cases part with
  | none => exact nofun
  | some text => exact List.forall_mem_cons.mpr ⟨hmark, h text rfl⟩

theorem NormalParts.lt_of_mem_back (h : url.NormalParts) : ∀ c ∈ url.back, 0x20 < c.toNat := by
  refine List.forall_mem_append.mpr ⟨lt_of_mem_markedPart (by decide) ?_,
    lt_of_mem_markedPart (by decide) ?_⟩
  · exact fun query hquery c hc =>
      EscapeSet.lt_of_adding_control (h.query query hquery c hc) (by decide)
  · exact fun fragment hfragment c hc =>
      EscapeSet.lt_of_adding_control (h.fragment fragment hfragment c hc) (by decide)

theorem NormalParts.allInner_front (h : url.NormalParts) {list : List (List Char)}
    (hpath : url.path = .segments list) : AllInner url.front := by
  unfold front
  refine AllInner.append (AllInner.append ?_ ?_) ?_
  · cases hauthority : url.authority with
    | none => exact allInner_nil
    | some authority => exact h.authority authority hauthority
  · unfold pathMark
    split
    · exact (allInner_nil.cons rfl).cons rfl
    · exact allInner_nil
  · rw [hpath]
    intro c hc
    obtain ⟨segment, hsegment, hmem⟩ := List.mem_flatMap.mp hc
    exact (h.segments list hpath segment hsegment).cons rfl c hmem

theorem NormalParts.front_of_plain (h : url.NormalParts) {plain : List Char}
    (hpath : url.path = .plain plain) :
    url.front = plain := by
  obtain ⟨hauthority, _⟩ := h.plain plain hpath
  rw [front, pathMark, hauthority, hpath]
  rfl

theorem Normal.clean_text (h : url.Normal)
    (hend : (∃ list, url.path = .segments list) ∨ url.back ≠ []) :
    clean (url.scheme ++ ':' :: (url.front ++ url.back)) =
      url.scheme ++ ':' :: (url.front ++ url.back) := by
  have hscheme : ∀ c ∈ url.scheme, 0x20 < c.toNat := fun c hc => lt_of_isInner (h.scheme_inner c hc)
  have hback := h.lt_of_mem_back
  have hcolon : 0x20 < ':'.toNat := by decide
  have hfront : ∀ c ∈ url.front, 0x20 ≤ c.toNat := by
    intro c hc
    cases hpath : url.path with
    | segments list => exact (lt_of_isInner (h.allInner_front hpath c hc)).le
    | plain text =>
      rw [h.front_of_plain hpath] at hc
      exact EscapeSet.le_of_control ((h.plain text hpath).2.2.2 c hc).1
  refine clean_of_visible ?_ ?_ ?_
  · refine List.forall_mem_append.mpr ⟨fun c hc => (hscheme c hc).le,
      List.forall_mem_cons.mpr ⟨hcolon.le, ?_⟩⟩
    exact List.forall_mem_append.mpr ⟨hfront, fun c hc => (hback c hc).le⟩
  · rw [List.head?_append_of_ne_nil _ h.scheme_ne]
    exact fun c hc => hscheme c (List.mem_of_mem_head? hc)
  · rcases hend with ⟨list, hpath⟩ | hne
    · have hinner : ∀ c ∈ url.front, 0x20 < c.toNat :=
        fun c hc => lt_of_isInner (h.allInner_front hpath c hc)
      have hall := List.forall_mem_append.mpr
        ⟨hscheme, List.forall_mem_cons.mpr ⟨hcolon, List.forall_mem_append.mpr ⟨hinner, hback⟩⟩⟩
      exact fun c hc => hall c (List.mem_of_mem_getLast? hc)
    · rw [← List.cons_append, ← List.append_assoc, List.getLast?_append_of_ne_nil _ hne]
      exact fun c hc => hback c (List.mem_of_mem_getLast? hc)

theorem Normal.parse_text (h : url.Normal)
    (hend : (∃ list, url.path = .segments list) ∨ url.back ≠ []) :
    parse url.text = ofRest url.scheme (url.front ++ url.back) := by
  rw [text_eq, parse_eq, String.toList_ofList, h.clean_text hend, h.scheme_reads]

theorem authority_of_atSign {atEnd : Bool} {authority : Authority} {rest : List Char}
    (h : authorityOf .other ['@'] atEnd = .ok (authority, rest)) : authority.text = ['/', '/'] := by
  cases atEnd with
  | false => cases h
  | true =>
    have hempty : authorityOf .other ['@'] true = .ok (⟨[], .domain [], none⟩, []) := rfl
    obtain ⟨rfl, _⟩ := Prod.mk.inj (Except.ok.inj (hempty.symm.trans h))
    rfl

theorem Normal.no_atSign (h : url.Normal) {list : List (List Char)}
    (hpath : url.path = .segments list)
    (hreads : ofRest url.scheme (url.front ++ url.back) = .ok url) (rest : List Char)
    (hkind : SchemeKind.ofScheme (String.ofList url.scheme) = .other)
    (hfront : url.front = '/' :: '/' :: rest) :
    (cutAt (endsAuthority .other) rest).1 ≠ ['@'] := by
  intro hat
  have hrest : AllInner rest := fun c hc =>
    h.allInner_front hpath c (hfront ▸ List.mem_cons_of_mem _ (List.mem_cons_of_mem _ hc))
  unfold ofRest at hreads
  rw [hkind, hfront] at hreads
  change withAuthority .other url.scheme (rest ++ url.back) = .ok url at hreads
  rw [withAuthority_append hrest url.isBack_back, hat] at hreads
  split at hreads
  · cases hreads
  · next authority afterPort hauthority =>
    have hsome : url.authority = some authority :=
      (congrArg Url.authority (Except.ok.inj hreads)).symm
    rw [front, pathMark, hsome] at hfront
    dsimp only at hfront
    rw [authority_of_atSign hauthority, hpath] at hfront
    obtain rfl : list.flatMap (fun segment => '/' :: segment) = rest :=
      (List.cons.inj (List.cons.inj hfront).2).2
    cases list with
    | nil => cases hat
    | cons segment more => cases hat

theorem Normal.withQuery (h : url.Normal) {query : List Char}
    (hquery : ∀ c ∈ query, EscapeSet.query c = false) :
    { url with query := some query }.Normal := by
  refine ⟨⟨h.authority, h.segments, ?_, h.fragment, h.plain⟩, h.scheme_ne, h.scheme_inner,
    h.scheme_reads⟩
  rintro _ ⟨⟩
  exact hquery

theorem withoutAuthority_plain {scheme plain : List Char} (hslash : plain.head? ≠ some '/')
    (hfree : ∀ c ∈ plain, EscapeSet.control c = false ∧ c ≠ '?' ∧ c ≠ '#') :
    withoutAuthority scheme plain = ⟨scheme, none, .plain plain, none, none⟩ := by
  have hcut : cutAt (fun c => c = '?' || c = '#') plain = (plain, []) :=
    cutAt_of_free fun c hc => by simp [(hfree c hc).2.1, (hfree c hc).2.2]
  have hescaped : escape EscapeSet.control plain = plain :=
    escape_of_free fun c hc => (hfree c hc).1
  unfold withoutAuthority
  rw [hcut]
  dsimp only
  split
  · exact absurd rfl hslash
  · rw [hescaped]
    rfl

/-- An address that is read back is read with another query and fragment behind it. -/
theorem Normal.ofRest_withBack (h : url.Normal) (hreads : url.ReadsBack) {other : List Char}
    (hother : IsBack other) : ofRest url.scheme (url.front ++ other) =
      .ok (url.withBack (SchemeKind.ofScheme (String.ofList url.scheme)) other) := by
  cases hpath : url.path with
  | segments list =>
    have hrest : ofRest url.scheme (url.front ++ url.back) = .ok url :=
      (h.parse_text (.inl ⟨list, hpath⟩)).symm.trans hreads
    exact ofRest_swap (h.allInner_front hpath) url.isBack_back hother
      (h.no_atSign hpath hrest) hrest
  | plain text =>
    obtain ⟨hauthority, hkind, hslash, hfree⟩ := h.plain text hpath
    have hplain : ∀ rest, text ≠ '/' :: '/' :: rest := by
      rintro rest rfl
      exact hslash rfl
    have hcut : ∀ c ∈ text, (decide (c = '?') || decide (c = '#')) = false := fun c hc => by
      simp [(hfree c hc).2.1, (hfree c hc).2.2]
    rw [h.front_of_plain hpath, ofRest, hkind]
    dsimp only
    rw [ofOther_append hplain hother, withoutAuthority_append hcut hother,
      withoutAuthority_plain hslash hfree, withBack, withBack, hauthority, hpath]

theorem front_withQuery (url : Url) (query : List Char) :
    { url with query := some query }.front = url.front := rfl

/-- If an address is read back from its text, it is so with every other query. -/
theorem ReadsBack.withQuery (h : url.ReadsBack) (hnormal : url.Normal) {query : List Char}
    (hquery : ∀ c ∈ query, EscapeSet.specialQuery c = false) :
    { url with query := some query }.ReadsBack := by
  have hnew := hnormal.withQuery fun c hc => (EscapeSet.adding_eq_false.mp (hquery c hc)).1
  have hback : { url with query := some query }.back =
      '?' :: query ++ markedPart '#' url.fragment := rfl
  have hmark : IsBack ('?' :: query ++ markedPart '#' url.fragment) := by
    rintro _ ⟨⟩
    exact .inl rfl
  have htext := hnew.parse_text (.inr (hback ▸ List.cons_ne_nil _ _))
  rw [front_withQuery, hback] at htext
  rw [ReadsBack, htext, hnormal.ofRest_withBack h hmark, withBack,
    queryAndFragment_marked _ hquery hnormal.fragment]

end ReadsBack

end Patchbay.Url
