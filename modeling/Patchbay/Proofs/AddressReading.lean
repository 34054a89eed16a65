import Patchbay.Proofs.AddressText
import Mathlib.Data.List.TakeWhile

namespace Patchbay.Url

/-- What follows the path of an address: nothing, or what starts with the mark of a query or a
fragment. -/
def IsBack (back : List Char) : Prop :=
  ∀ c ∈ back.head?, c = '?' ∨ c = '#'

section Cut

variable {stops : Char → Bool} {front back : List Char}

theorem cutAt_append (h : ∀ c ∈ back.head?, stops c) :
    cutAt stops (front ++ back) = ((cutAt stops front).1, (cutAt stops front).2 ++ back) := by
  induction front with
  | nil =>
    cases back with
    | nil => rfl
    | cons c rest =>
      have hc : stops c := h c rfl
      simp [cutAt, hc]
  | cons c rest ih =>
    rw [cutAt, cutAt, Prod.mk.injEq] at ih
    cases hc : stops c with
    | false => simpa [cutAt, hc] using ih
    | true => simp [cutAt, hc]

theorem cutAt_of_free (h : ∀ c ∈ front, stops c = false) : cutAt stops front = (front, []) := by
  have hall : ∀ c ∈ front, (!stops c) = true := fun c hc => by rw [h c hc, Bool.not_false]
  rw [cutAt, List.takeWhile_eq_self_iff.mpr hall, List.dropWhile_eq_nil_iff.mpr hall]

theorem cutAt_back (hfront : ∀ c ∈ front, stops c = false) (hback : ∀ c ∈ back.head?, stops c) :
    cutAt stops (front ++ back) = (front, back) := by
  rw [cutAt_append hback, cutAt_of_free hfront, List.nil_append]

end Cut

theorem queryAndFragment_marked (kind : SchemeKind) {query : List Char}
    {fragment : Option (List Char)}
    (hquery : ∀ c ∈ query, EscapeSet.specialQuery c = false)
    (hfragment : ∀ text ∈ fragment, ∀ c ∈ text, EscapeSet.fragment c = false) :
    queryAndFragment kind ('?' :: query ++ markedPart '#' fragment) = (some query, fragment) := by
  have hplain : ∀ c ∈ query, EscapeSet.query c = false := fun c hc =>
    (EscapeSet.adding_eq_false.mp (hquery c hc)).1
  have hmark : ∀ c ∈ '?' :: query, decide (c = '#') = false := by
    refine List.forall_mem_cons.mpr ⟨rfl, fun c hc => decide_eq_false ?_⟩
    rintro rfl
    exact absurd (hplain _ hc) (by decide)
  have hback : ∀ c ∈ (markedPart '#' fragment).head?, decide (c = '#') := by
    cases fragment with
    | none => exact nofun
    | some text => rintro _ ⟨⟩; rfl
  have hescaped :
      escape (if kind.isSpecial then EscapeSet.specialQuery else EscapeSet.query) query =
          query := by
    split
    · exact escape_of_free hquery
    · exact escape_of_free hplain
  unfold queryAndFragment
  rw [cutAt_back hmark hback]
  cases fragment with
  | none => simp only [hescaped, markedPart]
  | some text => simp only [hescaped, markedPart, escape_of_free (hfragment text rfl)]

theorem queryAndFragment_free (kind : SchemeKind) (text : List Char) :
    (∀ query ∈ (queryAndFragment kind text).1, ∀ c ∈ query, EscapeSet.query c = false) ∧
      ∀ fragment ∈ (queryAndFragment kind text).2, ∀ c ∈ fragment,
        EscapeSet.fragment c = false := by
  unfold queryAndFragment
  dsimp only
  constructor
  · intro query hquery c hc
    split at hquery
    · obtain rfl := Option.some.inj hquery
      split at hc
      · exact (EscapeSet.adding_eq_false.mp (EscapeSet.stable_specialQuery.of_mem_escape hc)).1
      · exact EscapeSet.stable_query.of_mem_escape hc
    · cases hquery
  · intro fragment hfragment c hc
    split at hfragment
    · obtain rfl := Option.some.inj hfragment
      exact EscapeSet.stable_fragment.of_mem_escape hc
    · cases hfragment

def withBack (url : Url) (kind : SchemeKind) (back : List Char) : Url :=
  { url with query := (queryAndFragment kind back).1, fragment := (queryAndFragment kind back).2 }

section Swap

variable {kind : SchemeKind} {scheme front back other : List Char} {url : Url}

theorem not_stops_of_isInner {c : Char} (h : isInner c) :
    (decide (c = '?') || decide (c = '#')) = false := by
  simp only [isInner, Bool.and_eq_true, decide_eq_true_eq] at h
  simp [h.1.2, h.2]

theorem stops_of_isBack (h : IsBack back) :
    ∀ c ∈ back.head?, (decide (c = '?') || decide (c = '#')) = true := by
  intro c hc
  simpa using h c hc

theorem cutUserinfo_eq {text : List Char} (huser : (cutUserinfo text).1 = some [])
    (hhost : (cutUserinfo text).2 = []) : text = ['@'] := by
  unfold cutUserinfo at huser hhost
  split at huser
  · next hat =>
    rw [if_pos hat] at hhost
    dsimp only at huser hhost
    rw [hhost, Option.some.injEq, List.length_nil, Nat.sub_zero, List.take_eq_nil_iff] at huser
    match text, huser with
    | [], _ => cases hat
    | [c], _ => rw [List.mem_singleton.mp (List.contains_iff_mem.mp hat)]
    | _ :: _ :: rest, .inl hlength => simp at hlength
  · cases huser

/-- Only for a lone at sign it matters whether the address ends there. -/
theorem authorityOf_atEnd {text : List Char} {atEnd : Bool} {result : Authority × List Char}
    (h : authorityOf kind text atEnd = .ok result) (hlone : kind.isSpecial = false → text ≠ ['@'])
    (later : Bool) : authorityOf kind text later = .ok result := by
  have hne : text ≠ ['@'] := by
    cases hspecial : kind.isSpecial with
    | false => exact hlone hspecial
    | true =>
      rintro rfl
      have herror : authorityOf kind ['@'] atEnd = .error .emptyHost := by
        simp [authorityOf, cutUserinfo, cutHost, hspecial]
      cases h.symm.trans herror
  have hnot (atEnd : Bool) :
      ¬ ((cutUserinfo text).1 = some [] ∧ (cutUserinfo text).2.isEmpty ∧ !atEnd) := fun hempty =>
    hne (cutUserinfo_eq hempty.1 (List.isEmpty_iff.mp hempty.2.1))
  unfold authorityOf at h ⊢
  dsimp only at h ⊢
  rw [if_neg (hnot _)] at h ⊢
  exact h

def endsAuthority (kind : SchemeKind) (c : Char) : Bool :=
  kind.isSlash c || c = '?' || c = '#'

theorem withAuthority_append (hfront : AllInner front) (hback : IsBack back) :
    withAuthority kind scheme (front ++ back) =
      match authorityOf kind (cutAt (endsAuthority kind) front).1
        ((cutAt (endsAuthority kind) front).2 ++ back).isEmpty with
      | .error error => .error error
      | .ok (authority, afterPort) =>
          let path := pathOf kind (afterPort ++ (cutAt (endsAuthority kind) front).2)
          let url : Url :=
            { scheme, authority := some authority, path, query := none, fragment := none }
          .ok (url.withBack kind back) := by
  have hends : ∀ c ∈ back.head?, endsAuthority kind c := by
    intro c hc
    rcases hback c hc with rfl | rfl <;> simp [endsAuthority]
  have hrest : ∀ c ∈ (cutAt (endsAuthority kind) front).2,
      (decide (c = '?') || decide (c = '#')) = false :=
    fun c hc => not_stops_of_isInner (hfront c ((List.dropWhile_sublist _).mem hc))
  have hcut : cutAt (fun c => kind.isSlash c || c = '?' || c = '#') (front ++ back) =
      ((cutAt (endsAuthority kind) front).1, (cutAt (endsAuthority kind) front).2 ++ back) :=
    cutAt_append hends
  unfold withAuthority
  rw [hcut]
  dsimp only
  rw [cutAt_back hrest (stops_of_isBack hback)]
  rfl

/-- With another query and fragment behind it an authority is read as before. -/
theorem withAuthority_swap (hfront : AllInner front) (hback : IsBack back) (hother : IsBack other)
    (hlone : kind.isSpecial = false → (cutAt (endsAuthority kind) front).1 ≠ ['@'])
    (h : withAuthority kind scheme (front ++ back) = .ok url) :
    withAuthority kind scheme (front ++ other) = .ok (url.withBack kind other) := by
  rw [withAuthority_append hfront hback] at h
  rw [withAuthority_append hfront hother]
  split at h
  · cases h
  · next authority afterPort hauthority =>
    rw [authorityOf_atEnd hauthority hlone]
    obtain rfl := Except.ok.inj h
    rfl

theorem ofFileText_swap (hfront : AllInner front) (hback : IsBack back) (hother : IsBack other)
    (h : ofFileText scheme (front ++ back) = .ok url) :
    ofFileText scheme (front ++ other) = .ok (url.withBack .file other) := by
  have hfree : ∀ c ∈ front, (decide (c = '?') || decide (c = '#')) = false := fun c hc =>
    not_stops_of_isInner (hfront c hc)
  unfold ofFileText at h ⊢
  rw [cutAt_back hfree (stops_of_isBack hback)] at h
  rw [cutAt_back hfree (stops_of_isBack hother)]
  dsimp only at h ⊢
  split at h
  · cases h
  · obtain rfl := Except.ok.inj h
    rfl

theorem withoutAuthority_append
    (hfront : ∀ c ∈ front, (decide (c = '?') || decide (c = '#')) = false)
    (hback : IsBack back) : withoutAuthority scheme (front ++ back) =
      withBack (withoutAuthority scheme front) .other back := by
  unfold withoutAuthority
  rw [cutAt_back hfront (stops_of_isBack hback), cutAt_of_free hfront]
  rfl

end Swap

def ofOther (scheme rest : List Char) : Except UrlError Url :=
  match rest with
  | '/' :: '/' :: rest => withAuthority .other scheme rest
  | rest => .ok (withoutAuthority scheme rest)

def ofRest (scheme rest : List Char) : Except UrlError Url :=
  let kind := SchemeKind.ofScheme (String.ofList scheme)
  match kind with
  | .web _ => withAuthority kind scheme (rest.dropWhile kind.isSlash)
  | .file => ofFileText scheme rest
  | .other => ofOther scheme rest

theorem parse_eq (text : String) :
    parse text =
      match takeScheme (clean text.toList) with
      | none => .error .relative
      | some (scheme, rest) => ofRest scheme rest := by
  unfold parse
  cases takeScheme (clean text.toList) with
  | none => rfl
  | some cut =>
    unfold ofRest
    cases hkind : SchemeKind.ofScheme (String.ofList cut.1) with
    | web port | file => simp only [hkind]
    | other =>
      simp only [hkind]
      rfl

section OfRest

variable {scheme front back other : List Char} {url : Url}

theorem dropWhile_append_back {kind : SchemeKind} (hback : IsBack back) :
    (front ++ back).dropWhile kind.isSlash = front.dropWhile kind.isSlash ++ back := by
  induction front with
  | nil =>
    cases back with
    | nil => rfl
    | cons c rest =>
      have hc : kind.isSlash c = false := by
        rcases hback c rfl with rfl | rfl <;> simp [SchemeKind.isSlash]
      simp [hc]
  | cons c rest ih =>
    cases hc : kind.isSlash c with
    | false => simp [hc]
    | true => simpa [hc] using ih

/-- A single slash in front of a query does not start an authority. -/
theorem ofOther_append (hplain : ∀ rest, front ≠ '/' :: '/' :: rest) (hback : IsBack back) :
    ofOther scheme (front ++ back) = .ok (withoutAuthority scheme (front ++ back)) := by
  unfold ofOther
  split
  · next rest hdouble =>
    have hhead (more : List Char) : back ≠ '/' :: more := by
      rintro rfl
      have hmark := hback '/' rfl
      revert hmark
      decide
    match front with
    | [] => exact absurd hdouble (hhead _)
    | [c] => exact absurd (List.cons.inj hdouble).2 (hhead _)
    | c :: d :: more =>
      obtain ⟨rfl, htail⟩ := List.cons.inj hdouble
      obtain ⟨rfl, _⟩ := List.cons.inj htail
      exact absurd rfl (hplain more)
  · rfl

theorem ofOther_swap (hfront : AllInner front) (hback : IsBack back) (hother : IsBack other)
    (hlone : ∀ rest, front = '/' :: '/' :: rest → (cutAt (endsAuthority .other) rest).1 ≠ ['@'])
    (h : ofOther scheme (front ++ back) = .ok url) :
    ofOther scheme (front ++ other) = .ok (url.withBack .other other) := by
  by_cases hdouble : ∃ rest, front = '/' :: '/' :: rest
  · obtain ⟨rest, rfl⟩ := hdouble
    have hrest : AllInner rest :=
      fun c hc => hfront c (List.mem_cons_of_mem _ (List.mem_cons_of_mem _ hc))
    exact withAuthority_swap hrest hback hother (fun _ => hlone rest rfl) h
  · have hfree : ∀ c ∈ front, (decide (c = '?') || decide (c = '#')) = false := fun c hc =>
      not_stops_of_isInner (hfront c hc)
    rw [ofOther_append (not_exists.mp hdouble) hback, withoutAuthority_append hfree hback] at h
    rw [ofOther_append (not_exists.mp hdouble) hother, withoutAuthority_append hfree hother]
    obtain rfl := Except.ok.inj h
    rfl

theorem ofRest_swap (hfront : AllInner front) (hback : IsBack back) (hother : IsBack other)
    (hlone : ∀ rest, SchemeKind.ofScheme (String.ofList scheme) = .other →
      front = '/' :: '/' :: rest →
      (cutAt (endsAuthority .other) rest).1 ≠ ['@'])
    (h : ofRest scheme (front ++ back) = .ok url) :
    ofRest scheme (front ++ other) =
      .ok (url.withBack (SchemeKind.ofScheme (String.ofList scheme)) other) := by
  unfold ofRest at h ⊢
  cases hkind : SchemeKind.ofScheme (String.ofList scheme) with
  | web port =>
    rw [hkind] at h
    dsimp only at h ⊢
    rw [dropWhile_append_back hback] at h
    rw [dropWhile_append_back hother]
    have hfront' : AllInner (front.dropWhile (SchemeKind.web port).isSlash) := fun c hc =>
      hfront c ((List.dropWhile_sublist _).mem hc)
    exact withAuthority_swap hfront' hback hother (fun hspecial => by cases hspecial) h
  | file =>
    rw [hkind] at h
    exact ofFileText_swap hfront hback hother h
  | other =>
    rw [hkind] at h
    exact ofOther_swap hfront hback hother (fun rest => hlone rest hkind) h

end OfRest

section Scheme

def isSchemePart (c : Char) : Bool :=
  isAlphanumeric c || c = '+' || c = '-' || c = '.'

theorem isSchemePart_toLower {c : Char} (h : isSchemePart c) :
    isSchemePart c.toLower ∧ isInner c.toLower ∧
    c.toLower.toLower = c.toLower ∧ (c.isAlpha → c.toLower.isAlpha) := by
  have hlt : c.toNat < 0x80 := by
    simp only [isSchemePart, Bool.or_eq_true, decide_eq_true_eq] at h
    rcases h with ((h | rfl) | rfl) | rfl
    · exact lt_of_isAlphanumeric h
    all_goals decide
  have hall := of_ascii (fun c => !isSchemePart c || (isSchemePart c.toLower && isInner c.toLower &&
    c.toLower.toLower = c.toLower && (!c.isAlpha || c.toLower.isAlpha))) (by decide +kernel) hlt
  simp only [h, Bool.not_true, Bool.false_or, Bool.and_eq_true, decide_eq_true_eq,
    Bool.or_eq_true] at hall
  obtain ⟨⟨⟨hpart, hinner⟩, hlower⟩, halpha⟩ := hall
  refine ⟨hpart, hinner, hlower, fun h => halpha.resolve_left ?_⟩
  rw [h]
  exact Bool.false_ne_true

theorem takeScheme_eq (text : List Char) :
    takeScheme text =
      match text.takeWhile isSchemePart, text.dropWhile isSchemePart with
      | first :: more, ':' :: rest =>
          if first.isAlpha then some ((first :: more).map Char.toLower, rest) else none
      | _, _ => none := rfl

theorem takeScheme_append {first : Char} {others : List Char}
    (hparts : ∀ c ∈ first :: others, isSchemePart c)
    (halpha : first.isAlpha) (more : List Char) :
    takeScheme (first :: others ++ ':' :: more) =
      some ((first :: others).map Char.toLower, more) := by
  have hcolon : ¬ isSchemePart ':' := by decide
  rw [takeScheme_eq, List.takeWhile_append_of_pos hparts, List.dropWhile_append_of_pos hparts,
    List.takeWhile_cons_of_neg hcolon, List.dropWhile_cons_of_neg hcolon, List.append_nil]
  exact if_pos halpha

theorem takeScheme_spec {text scheme rest : List Char} (h : takeScheme text = some (scheme, rest)) :
    scheme ≠ [] ∧ AllInner scheme ∧
      ∀ more, takeScheme (scheme ++ ':' :: more) = some (scheme, more) := by
  rw [takeScheme_eq] at h
  split at h
  · next first others _ hfirst _ =>
    split at h
    · next halpha =>
      obtain ⟨rfl, rfl⟩ := Prod.mk.inj (Option.some.inj h)
      have hlower : ∀ c ∈ first :: others, isSchemePart c.toLower ∧ isInner c.toLower ∧
          c.toLower.toLower = c.toLower ∧ (c.isAlpha → c.toLower.isAlpha) := fun c hc =>
        isSchemePart_toLower (List.mem_takeWhile_imp (hfirst ▸ hc))
      refine ⟨List.cons_ne_nil _ _, List.forall_mem_map.mpr fun c hc => (hlower c hc).2.1,
        fun more => ?_⟩
      have hsame : ((first :: others).map Char.toLower).map Char.toLower =
          (first :: others).map Char.toLower := by
        rw [List.map_map]
        exact List.map_congr_left fun c hc => (hlower c hc).2.2.1
      have hparts : ∀ c ∈ (first :: others).map Char.toLower, isSchemePart c :=
        List.forall_mem_map.mpr fun c hc => (hlower c hc).1
      rw [List.map_cons] at hparts hsame ⊢
      rw [takeScheme_append hparts ((hlower first List.mem_cons_self).2.2.2 halpha), hsame]
    · cases h
  · cases h

end Scheme

theorem clean_of_visible {text : List Char} (hall : ∀ c ∈ text, 0x20 ≤ c.toNat)
    (hhead : ∀ c ∈ text.head?, 0x20 < c.toNat) (hlast : ∀ c ∈ text.getLast?, 0x20 < c.toNat) :
    clean text = text := by
  have hdrop {text : List Char} (h : ∀ c ∈ text.head?, 0x20 < c.toNat) :
      text.dropWhile (fun c => decide (c.toNat ≤ 0x20)) = text := by
    cases text with
    | nil => rfl
    | cons c rest =>
      have hc : ¬ c.toNat ≤ 0x20 := Nat.not_le.mpr (h c rfl)
      rw [List.dropWhile_cons_of_neg (by simpa using hc)]
  unfold clean
  dsimp only
  rw [hdrop hhead, hdrop (List.head?_reverse ▸ hlast), List.reverse_reverse]
  refine List.filter_eq_self.mpr fun c hc => ?_
  have hlow := hall c hc
  have hne {d : Char} (hd : d.toNat < 0x20) : c ≠ d := by
    rintro rfl
    omega
  simp [hne (show '\t'.toNat < 0x20 by decide), hne (show '\n'.toNat < 0x20 by decide),
    hne (show '\r'.toNat < 0x20 by decide)]

end Patchbay.Url
